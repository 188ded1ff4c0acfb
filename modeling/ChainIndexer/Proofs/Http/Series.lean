import ChainIndexer.Proofs.Http.Host

/-! Answers that come in pages. A client asks for one page after the other, until a page cannot be
read or no more is wanted after it. Whether more is wanted may depend on all pages read so far. -/
namespace ChainIndexer.Http

/-- Pages, counted from zero. -/
structure Series (π : Type) where
  asks : Nat → Except Fault Request
  read : Nat → Except Fault π
  /-- Whether another page is asked for after this one, given the pages before it. -/
  more : List π → π → Bool
  requested : ∀ {i : Nat} {page : π}, read i = .ok page → ∃ r, asks i = .ok r

namespace Series

variable {π ρ : Type} {s : Series π} {pages : List π}

def requests (s : Series π) (count : Nat) : List Request :=
  (List.range count).flatMap fun i => (s.asks i).toOption.toList

theorem requests_succ (count : Nat) :
    s.requests (count + 1) = s.requests count ++ (s.asks count).toOption.toList := by
  simp [requests, List.range_succ]

theorem length_requests_le (count : Nat) : (s.requests count).length ≤ count := by
  induction count with
  | zero => exact Nat.le_refl 0
  | succ count ih =>
      have once : (s.asks count).toOption.toList.length ≤ 1 := Option.length_toList_le
      rw [requests_succ, List.length_append]
      omega

/-- Pages that were read one after the other, with more wanted after each. -/
inductive Unfinished (s : Series π) : List π → Prop
  | none : s.Unfinished []
  | next {pages : List π} {page : π} (earlier : s.Unfinished pages)
      (read : s.read pages.length = .ok page) (wanted : s.more pages page = true) :
      s.Unfinished (pages ++ [page])

/-- How asking for pages can end, and after how many: with one that cannot be read, or with one
after which no more is wanted. -/
inductive Ends (s : Series π) : Nat → Except Fault (List π) → Prop
  | failed {pages : List π} {f : Fault} (earlier : s.Unfinished pages)
      (failed : s.read pages.length = .error f) : s.Ends (pages.length + 1) (.error f)
  | last {pages : List π} {page : π} (earlier : s.Unfinished pages)
      (read : s.read pages.length = .ok page) (enough : s.more pages page = false) :
      s.Ends (pages.length + 1) (.ok (pages ++ [page]))

theorem map_read_concat {page : π} (earlier : (List.range pages.length).map s.read = pages.map .ok)
    (read : s.read pages.length = .ok page) :
    (List.range (pages ++ [page]).length).map s.read = (pages ++ [page]).map .ok := by
  rw [List.length_append, List.length_singleton, List.range_succ, List.map_append, List.map_append,
    earlier, List.map_singleton, List.map_singleton, read]

theorem Unfinished.map_read (unfinished : s.Unfinished pages) :
    (List.range pages.length).map s.read = pages.map .ok := by
  induction unfinished with
  | none => rfl
  | next earlier read wanted ih => exact map_read_concat ih read

theorem map_requests (read : (List.range pages.length).map s.read = pages.map .ok) :
    (s.requests pages.length).map .ok = (List.range pages.length).map s.asks := by
  have requested : ∀ i ∈ List.range pages.length, ∃ r, s.asks i = .ok r := by
    intro i member
    have listed := List.mem_map_of_mem (f := s.read) member
    rw [read] at listed
    obtain ⟨page, _, read⟩ := List.mem_map.1 listed
    exact s.requested read.symm
  unfold requests
  generalize List.range pages.length = places at requested
  induction places with
  | nil => rfl
  | cons i rest ih =>
      obtain ⟨r, asked⟩ := requested i List.mem_cons_self
      rw [List.flatMap_cons, List.map_append, asked, List.map_cons, asked,
        ih fun j later => requested j (List.mem_cons_of_mem i later)]
      rfl

theorem Unfinished.length_requests (unfinished : s.Unfinished pages) :
    (s.requests pages.length).length = pages.length := by
  simpa using congrArg List.length (map_requests unfinished.map_read)

theorem Ends.map_read {count : Nat} (ends : s.Ends count (.ok pages)) :
    pages.length = count ∧ (List.range pages.length).map s.read = pages.map .ok := by
  cases ends with
  | last earlier read enough =>
      exact ⟨List.length_append, map_read_concat earlier.map_read read⟩

theorem Ends.read_eq {count i : Nat} (ends : s.Ends count (.ok pages)) (h : i < pages.length) :
    s.read i = .ok pages[i] := by
  simpa [h] using congrArg (fun answers => answers[i]?) ends.map_read.2

/-- A client that goes through the pages: after pages with more to come it asks for one page, and
goes on if more is wanted. -/
def Walks (s : Series π) (host : Host) (past : List Request) (client : List π → Client ρ)
    (result : List π → ρ) : Prop :=
  ∀ pages, s.Unfinished pages →
    host.run (client pages) (past ++ s.requests pages.length) =
      let later := past ++ s.requests (pages.length + 1)
      match s.read pages.length with
      | .error f => (.error f, later)
      | .ok page =>
        if s.more pages page = true then host.run (client (pages ++ [page])) later
        else (.ok (result (pages ++ [page])), later)

/-- If the pages cannot go on for ever, such a client comes to an end. -/
theorem Walks.ends {host : Host} {past : List Request} {client : List π → Client ρ}
    {result : List π → ρ} (walks : s.Walks host past client result) (left : List π → Nat)
    (fewer : ∀ pages page, s.Unfinished pages → s.read pages.length = .ok page →
      s.more pages page = true → left (pages ++ [page]) < left pages)
    {pages : List π} (unfinished : s.Unfinished pages) :
    ∃ count ended, s.Ends count ended ∧
      host.run (client pages) (past ++ s.requests pages.length) =
        (ended.map result, past ++ s.requests count) := by
  rw [walks pages unfinished]
  cases read : s.read pages.length with
  | error f => exact ⟨_, _, .failed unfinished read, rfl⟩
  | ok page =>
      dsimp only
      cases wanted : s.more pages page with
      | false => exact ⟨_, _, .last unfinished read wanted, rfl⟩
      | true =>
          have rest := walks.ends left fewer (unfinished.next read wanted)
          rwa [List.length_append, List.length_singleton] at rest
termination_by left pages
decreasing_by exact fewer pages page unfinished read wanted

end Series
end ChainIndexer.Http
