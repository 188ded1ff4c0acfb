import ChainIndexer.Proofs.Acceptance

/-! Jobs in turn: each is done to its end, on an open store, before the next one begins. A job
leaves the blocks and the signatures alone, or it finds its height stored, or it indexes it. -/
namespace ChainIndexer

def Task.indexes? : Task → Option Height
  | index height | reindex height => if height = 0 then none else some height
  | transactions _ => none

/-- Tables that change only when a height is indexed. -/
def Part.indexed : Part → Bool
  | blocks | commitSignatures | lastPruned => true
  | _ => false

theorem Tables.part_after_sidesteps {p : Part} (indexed : p.indexed = true) {ops : List Operation}
    (sidestep : ∀ op ∈ ops, op.sidesteps = true) (t : Tables) :
    (t.after ops).part p = t.part p := by
  apply part_after
  intro op member
  have sidesteps := sidestep op member
  cases op <;> first | exact Bool.noConfusion sidesteps |
    (cases p <;> first | rfl | exact Bool.noConfusion indexed)

def accepts (height? : Option Height) : Except Fault Unit → Option Height
  | .ok () => height?
  | .error _ => none

namespace Surroundings

variable {σ : Type} {o : Surroundings σ} {ix : Indexer}

theorem run_bind_eq_ok {α β : Type} {p : ExceptT Fault (StateM σ) α}
    {f : α → ExceptT Fault (StateM σ) β} {value : β} {m : σ}
    (h : ((p >>= f).run m).1 = .ok value) :
    ∃ a, (p.run m).1 = .ok a ∧ ((f a).run (p.run m).2).1 = .ok value := by
  have split : (p >>= f).run m = (ExceptT.bindCont f (p.run m).1).run (p.run m).2 := rfl
  rw [split] at h
  cases answered : (p.run m).1 with
  | error e =>
      rw [answered] at h
      cases h
  | ok a =>
      rw [answered] at h
      exact ⟨a, rfl, h⟩

theorem answered_of_fetch {height : Height} {m : σ} {data : Fetched}
    (fetched : ((o.fetch height).run m).1 = .ok data) :
    (o.node (.block height) m).1 = .ok data.block ∧
      (∃ m, (o.node (.blockResults height) m).1 = .ok data.results) ∧
      (∃ m, (o.node (.transactions data.block) m).1 = .ok data.txs) ∧
      ∃ m, (o.node (.validators height) m).1 = .ok data.validators := by
  obtain ⟨block, first, rest⟩ := run_bind_eq_ok fetched
  obtain ⟨results, second, rest⟩ := run_bind_eq_ok rest
  obtain ⟨txs, third, rest⟩ := run_bind_eq_ok rest
  obtain ⟨validators, fourth, rest⟩ := run_bind_eq_ok rest
  obtain rfl : (⟨block, results, txs, validators⟩ : Fetched) = data := Except.ok.inj rest
  exact ⟨first, ⟨_, second⟩, ⟨_, third⟩, _, fourth⟩

/-- What can become of the tables in a job, and the height that is accepted, if one is. -/
inductive Comes (o : Surroundings σ) (ix : Indexer) (m : σ) (t : Tables) :
    Option Height → Tables → Prop
  | aside (ops : List Operation) (sidestep : ∀ op ∈ ops, op.sidesteps = true) :
    Comes o ix m t none (t.after ops)
  | spared (height : Height) (positive : height ≠ 0)
    (stored : t.blocks.contains height = true) : Comes o ix m t (some height) t
  | indexed (height : Height) (data : Fetched) (signatures : List CommitSignature)
    (ops : List Operation) (positive : height ≠ 0)
    (fetched : ((o.fetch height).run m).1 = .ok data) (resolved : data.resolve = .ok signatures)
    (persists : ix.Persists data signatures ops) : Comes o ix m t (some height) (t.after ops)

def Leads (o : Surroundings σ) (ix : Indexer) (p : Attempt Unit) (height? : Option Height) :
    Prop :=
  ∀ m s, s.closed = false → ∃ ended m' u, o.run p (m, s) = (ended, m', ⟨u, false⟩) ∧
    o.Comes ix m s.tables (accepts height? ended) u

theorem leads_of_calls {used : Operation → Bool} {p : Attempt Unit}
    (calls : p.Calls (Effect.uses used))
    (sidestep : ∀ op, used op = true → op.sidesteps = true) : o.Leads ix p none := by
  intro m s opened
  have leaves : used .close = false := Bool.eq_false_iff.2 fun close => nomatch sidestep _ close
  obtain ⟨ended, m', ops, ran, uses⟩ := run_of_calls (o := o) calls leaves m opened
  refine ⟨ended, m', _, ran, ?_⟩
  cases ended <;> exact .aside ops fun op member => sidestep op (uses op member)

theorem run_processBlock_opened (worker : Nat) (height : Height) (m : σ) {s : Store}
    (opened : s.closed = false) :
    (∃ f m', o.run ({ ix with worker }.processBlock height) (m, s) = (.error f, m', s)) ∨
      ∃ data signatures ops m', ((o.fetch height).run m).1 = .ok data ∧
        data.resolve = .ok signatures ∧ ix.Persists data signatures ops ∧
        o.run ({ ix with worker }.processBlock height) (m, s) =
          (.ok (), m', ⟨s.tables.after ops, false⟩) := by
  have becomes := run_processBlock_cases { ix with worker } o height m s
  cases fetched : ((o.fetch height).run m).1 with
  | error first =>
      rw [fetched] at becomes
      obtain ⟨f, m', ran, _⟩ := becomes
      exact .inl ⟨f, m', ran⟩
  | ok data =>
      rw [fetched] at becomes
      cases resolved : data.resolve with
      | error unresolved =>
          simp only [resolved] at becomes
          obtain ⟨f, m', ran, _⟩ := becomes
          exact .inl ⟨f, m', ran⟩
      | ok signatures =>
          simp only [resolved] at becomes
          obtain ⟨m', ops, ran, persists⟩ := run_persist (o := o) ix worker height data
            signatures ((o.fetch height).run m).2 opened
          exact .inr ⟨data, signatures, ops, m', rfl, resolved, persists, becomes.trans ran⟩

theorem leads_processBlock (worker : Nat) {height : Height} (positive : height ≠ 0) :
    o.Leads ix ({ ix with worker }.processBlock height) (some height) := by
  intro m s opened
  rcases run_processBlock_opened worker height m opened with
    ⟨f, m', ran⟩ | ⟨data, signatures, ops, m', fetched, resolved, persists, ran⟩
  · obtain ⟨tables, closed⟩ := s
    cases opened
    exact ⟨_, m', _, ran, .aside [] nofun⟩
  · exact ⟨_, m', _, ran, .indexed height data signatures ops positive fetched resolved persists⟩

theorem leads_process (worker : Nat) (height : Height) :
    o.Leads ix ({ ix with worker }.process height) (if height = 0 then none else some height) := by
  unfold Indexer.process
  split
  · apply leads_of_calls { ix with worker }.calls_processGenesis
    intro op used
    exact Bool.or_eq_true_iff.2 (.inl (Registry.servesGenesis used))
  · rename_i positive
    exact leads_processBlock worker positive

theorem run_processIfMissing (ix : Indexer) (height : Height) (m : σ) {s : Store}
    (opened : s.closed = false) : o.run (ix.processIfMissing height) (m, s) =
      if height ≠ 0 ∧ s.tables.blocks.contains height = true then (.ok (), m, s)
      else o.run (ix.process height) (m, s) := by
  unfold Indexer.processIfMissing
  by_cases genesis : height = 0
  · rw [if_pos genesis, if_neg fun spared => spared.1 genesis]
  · rw [if_neg genesis, run_bind, run_hasBlock _ m opened]
    cases stored : s.tables.blocks.contains height with
    | true =>
        rw [if_pos ⟨genesis, rfl⟩]
        rfl
    | false =>
        rw [if_neg fun spared => Bool.noConfusion spared.2]
        rfl

theorem leads_processIfMissing (worker : Nat) (height : Height) :
    o.Leads ix ({ ix with worker }.processIfMissing height)
      (if height = 0 then none else some height) := by
  intro m s opened
  have ran := run_processIfMissing (o := o) { ix with worker } height m opened
  split at ran
  · rename_i spared
    obtain ⟨positive, stored⟩ := spared
    obtain ⟨tables, closed⟩ := s
    cases opened
    refine ⟨.ok (), m, tables, ran, ?_⟩
    rw [if_neg positive]
    exact .spared height positive stored
  · rw [ran]
    exact leads_process worker height m s opened

theorem leads_attempt (o : Surroundings σ) (ix : Indexer) (j : Job) :
    o.Leads ix (j.attempt ix) j.task.indexes? := by
  obtain ⟨worker, task⟩ := j
  cases task with
  | index height => exact leads_processIfMissing worker height
  | reindex height => exact leads_process worker height
  | transactions height =>
      apply leads_of_calls Indexer.calls_processTransactions
      intro op saves
      exact Bool.or_eq_true_iff.2 (.inr saves)

/-- What jobs in turn have come to: the heights that were accepted, in order, the state of the
outside, and the store. -/
structure Record (σ : Type) where
  accepted : List Height := []
  outside : σ
  store : Store := .new

def next (o : Surroundings σ) (ix : Indexer) (r : Record σ) (j : Job) : Record σ :=
  let (ended, outside, store) := o.run (j.attempt ix) (r.outside, r.store)
  { accepted := r.accepted ++ (accepts j.task.indexes? ended).toList, outside, store }

/-- Jobs in turn, on a store that is new. -/
def inTurn (o : Surroundings σ) (ix : Indexer) (m : σ) (jobs : List Job) : Record σ :=
  jobs.foldl (o.next ix) { outside := m }

/-- What holds of the accepted heights and the tables, if each job preserves it. -/
theorem inTurn_induction {holds : List Height → Tables → Prop} (start : holds [] {})
    (step : ∀ accepted t m height? u, holds accepted t → o.Comes ix m t height? u →
      holds (accepted ++ height?.toList) u) (m : σ) (jobs : List Job) :
    holds (o.inTurn ix m jobs).accepted (o.inTurn ix m jobs).store.tables := by
  have reached (r : Record σ) (opened : r.store.closed = false)
      (held : holds r.accepted r.store.tables) :
      holds (jobs.foldl (o.next ix) r).accepted (jobs.foldl (o.next ix) r).store.tables := by
    induction jobs generalizing r with
    | nil => exact held
    | cons j jobs ih =>
        obtain ⟨ended, m', u, ran, comes⟩ := leads_attempt o ix j r.outside r.store opened
        have stepped : o.next ix r j =
            ⟨r.accepted ++ (accepts j.task.indexes? ended).toList, m', ⟨u, false⟩⟩ := by
          unfold next
          rw [ran]
        rw [List.foldl_cons, stepped]
        exact ih _ rfl (step _ _ _ _ _ held comes)
  exact reached { outside := m } rfl start

end Surroundings

/-- A node that stays as it is, with files that stay as they are. -/
def World.still (w : World) : Surroundings Unit where
  node q := fun m => (w.node q, m)
  files path := fun m => (w.files path, m)

/-- The same node, that counts the questions it is asked. -/
def World.counting (w : World) : Surroundings Nat where
  node q := fun asked => (w.node q, asked + 1)
  files path := fun asked => (w.files path, asked)

end ChainIndexer
