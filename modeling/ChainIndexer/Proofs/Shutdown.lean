import ChainIndexer.Proofs.Acceptance
import ChainIndexer.Worker

/-! Shutdown. A worker whose signal is raised leaves its loop once nothing waits in the queue. Since
a height whose attempt failed waits again at once, that is so exactly when its attempts fail only
so many times. -/
namespace ChainIndexer

variable {σ : Type}

/-- A worker that nobody sends heights any more. What its attempts come to depends on a state that
every one of them may change. -/
def Worker.alone (index : Nat) (attempt : Height → StateM σ (Except Fault Unit)) :
    Worker (StateT Pool (StateM σ)) where
  index
  attempt height := StateT.lift (attempt height)
  log _ := pure ()

def Pool.tried (p : Pool) (worker : Nat) (height : Height) : Except Fault Unit → Pool
  | .ok () => p.record worker height true
  | .error _ =>
    { p with queue := { p.queue with waiting := p.queue.waiting ++ [height] } }.record
      worker height false

def Surroundings.down : Surroundings Unit where
  node _ := pure (.error { kind := .nodeFault })
  files _ := pure (.error "not found")

def Pool.stopping : Pool where
  queue := { waiting := [5] }
  signal := { raised := true }

namespace Worker

variable {index : Nat} {attempt : Height → StateM σ (Except Fault Unit)} {p : Pool} {m : σ}

theorem turns_empty (n : Nat) (opened : p.queue.closed = false) (raised : p.signal.raised = true)
    (empty : p.queue.waiting = []) : (alone index attempt).turns (n + 1) p m = ((true, p), m) := by
  obtain ⟨⟨waiting, closed, _, _⟩, ⟨_, _⟩, stats⟩ := p
  cases opened
  cases raised
  cases empty
  rfl

theorem serve_bind {α β : Type} (x : Shift α) (f : α → Shift β) :
    (alone index attempt).serve (x >>= f) p m =
      let ((value, p'), m') := (alone index attempt).serve x p m
      (alone index attempt).serve (f value) p' m' :=
  congrFun (congrFun (Program.run_bind (alone index attempt).perform x f) p) m

theorem serve_attempt {α : Type} (height : Height) (next : Except Fault Unit → Shift α) :
    (alone index attempt).serve (.call (.attempt height) next) p m =
      (alone index attempt).serve (next (attempt height m).1) p (attempt height m).2 := rfl

theorem serve_handle (opened : p.queue.closed = false) (height : Height) :
    (alone index attempt).serve (Shift.handle index height) p m =
      (((), p.tried index height (attempt height m).1), (attempt height m).2) := by
  refine (serve_attempt height _).trans ?_
  obtain ⟨⟨waiting, closed, _, _⟩, ⟨_, _⟩, stats⟩ := p
  cases opened
  cases (attempt height m).1 <;> rfl

theorem turns_waiting (n : Nat) (opened : p.queue.closed = false) {height : Height}
    {rest : List Height} (waits : p.queue.waiting = height :: rest) :
    (alone index attempt).turns (n + 1) p m =
      (alone index attempt).turns n ({ p with queue := { p.queue with waiting := rest } }.tried
        index height (attempt height m).1) (attempt height m).2 := by
  have taken : (alone index attempt).serve (Shift.turn index) p m =
      (alone index attempt).serve (do Shift.handle index height; return Found.height height)
        { p with queue := { p.queue with waiting := rest } } m := by
    obtain ⟨⟨waiting, closed, _, _⟩, ⟨_, _⟩, stats⟩ := p
    cases opened
    cases waits
    rfl
  have opened' : { p with queue := { p.queue with waiting := rest } }.queue.closed = false := opened
  -- The rest of the loop sees the pool and the state as this turn leaves them.
  refine (serve_bind (Shift.turn index) _).trans ?_
  rw [taken, serve_bind, serve_handle opened']
  rfl

/-- One turn of a worker whose signal is raised: it leaves with nothing left to do, or there is a
failure more or a height less. -/
theorem turns_succ_cases (opened : p.queue.closed = false) (raised : p.signal.raised = true) :
    (p.queue.waiting = [] ∧ ∀ n, (alone index attempt).turns (n + 1) p m = ((true, p), m)) ∨
      ∃ p' m', (∀ n, (alone index attempt).turns (n + 1) p m =
          (alone index attempt).turns n p' m') ∧
        p'.queue.closed = false ∧ p'.signal.raised = true ∧
        p'.queue.waiting.length + 1 + p.stats.failed =
          p.queue.waiting.length + p'.stats.failed ∧
        p'.stats.failed ≤ p.stats.failed + 1 := by
  cases waits : p.queue.waiting with
  | nil => exact .inl ⟨rfl, fun n => turns_empty n opened raised waits⟩
  | cons height rest =>
      refine .inr ⟨_, _, fun n => turns_waiting n opened waits, ?_⟩
      cases (attempt height m).1 with
      | ok _ => exact ⟨opened, raised, rfl, Nat.le_succ _⟩
      | error f =>
          refine ⟨opened, raised, ?_, Nat.le_refl _⟩
          simp only [Pool.tried, Pool.record, Stats.record, List.length_append, List.length_cons,
            List.length_nil, Bool.false_eq_true, if_false]
          omega

theorem failed_turns_le (n : Nat) (opened : p.queue.closed = false)
    (raised : p.signal.raised = true) :
    ((alone index attempt).turns n p m).1.2.stats.failed ≤ p.stats.failed + n := by
  induction n generalizing p m with
  | zero => exact Nat.le_refl _
  | succ n ih =>
      rcases turns_succ_cases opened raised with
        ⟨_, left⟩ | ⟨p', m', goesOn, opened', raised', _, more⟩
      · rw [left]
        exact Nat.le_add_right _ _
      · rw [goesOn]
        have later := ih (m := m') opened' raised'
        omega

/-- A worker that has not left has tried as many heights as there are failures more and heights
less. -/
theorem le_failed_turns (n : Nat) (opened : p.queue.closed = false)
    (raised : p.signal.raised = true)
    (stays : ((alone index attempt).turns n p m).1.1 = false) :
    n + p.stats.failed ≤
      p.queue.waiting.length + ((alone index attempt).turns n p m).1.2.stats.failed := by
  induction n generalizing p m with
  | zero =>
      rw [Nat.zero_add]
      exact Nat.le_add_left _ _
  | succ n ih =>
      rcases turns_succ_cases opened raised with
        ⟨_, left⟩ | ⟨p', m', goesOn, opened', raised', fewer, _⟩
      · rw [left] at stays
        cases stays
      · rw [goesOn] at stays ⊢
        have later := ih opened' raised' stays
        omega

theorem turns_add {n : Nat} (opened : p.queue.closed = false) (raised : p.signal.raised = true)
    (leaves : ((alone index attempt).turns n p m).1.1 = true) (k : Nat) :
    (alone index attempt).turns (n + k) p m = (alone index attempt).turns n p m := by
  induction n generalizing p m with
  | zero => cases leaves
  | succ n ih =>
      rw [Nat.add_right_comm]
      rcases turns_succ_cases opened raised with ⟨_, left⟩ | ⟨p', m', goesOn, opened', raised', _⟩
      · rw [left, left]
      · rw [goesOn] at leaves
        rw [goesOn, goesOn]
        exact ih opened' raised' leaves

theorem waiting_turns_of_leaves (n : Nat) (opened : p.queue.closed = false)
    (raised : p.signal.raised = true)
    (leaves : ((alone index attempt).turns n p m).1.1 = true) :
    ((alone index attempt).turns n p m).1.2.queue.waiting = [] := by
  induction n generalizing p m with
  | zero => cases leaves
  | succ n ih =>
      rcases turns_succ_cases opened raised with
        ⟨empty, left⟩ | ⟨p', m', goesOn, opened', raised', _⟩
      · rw [left]
        exact empty
      · rw [goesOn] at leaves ⊢
        exact ih opened' raised' leaves

/-- A worker whose signal is raised leaves its loop exactly if the number of its failures is
bounded, and then no height is left in the queue. What `turns` comes to is, in this order, whether
it has left, the pool, and the state. -/
theorem leaves_iff_failures_bounded (index : Nat) (attempt : Height → StateM σ (Except Fault Unit))
    (p : Pool) (m : σ) (opened : p.queue.closed = false) (raised : p.signal.raised = true) :
    ((∃ n, ((alone index attempt).turns n p m).1.1 = true) ↔
      ∃ bound, ∀ n, ((alone index attempt).turns n p m).1.2.stats.failed ≤ bound) ∧
    ∀ n, ((alone index attempt).turns n p m).1.1 = true →
      ((alone index attempt).turns n p m).1.2.queue.waiting = [] := by
  refine ⟨⟨?_, ?_⟩, fun n => waiting_turns_of_leaves n opened raised⟩
  · rintro ⟨n, leaves⟩
    refine ⟨p.stats.failed + n, fun k => ?_⟩
    rcases Nat.le_total n k with after | before
    · obtain ⟨more, rfl⟩ := Nat.exists_eq_add_of_le after
      rw [turns_add opened raised leaves]
      exact failed_turns_le n opened raised
    · exact Nat.le_trans (failed_turns_le k opened raised) (Nat.add_le_add_left before _)
  · rintro ⟨bound, bounded⟩
    -- One turn more than there are heights that wait and failures to come.
    refine ⟨p.queue.waiting.length + bound + 1, ?_⟩
    cases stays : ((alone index attempt).turns (p.queue.waiting.length + bound + 1) p m).1.1 with
    | true => rfl
    | false =>
        have turned := le_failed_turns _ opened raised stays
        have few := bounded (p.queue.waiting.length + bound + 1)
        omega

/-- The node has lost its validators, and has found them once the height is tried again. -/
theorem leaves_iff_failures_bounded_recovering :
    ∃ w, w = alone 0 (fun height =>
        Surroundings.recovering.run (Indexer.quiet.processIfMissing height)) ∧
      Pool.stopping.queue.closed = false ∧ Pool.stopping.signal.raised = true ∧
      (w.turns 3 Pool.stopping (0, Store.new)).1.2.stats.failed = 1 ∧
      (∃ bound, ∀ n, (w.turns n Pool.stopping (0, Store.new)).1.2.stats.failed ≤ bound) ∧
      (w.turns 3 Pool.stopping (0, Store.new)).1.2.queue.waiting = [] := by
  obtain ⟨bounded, empty⟩ := leaves_iff_failures_bounded 0
    (fun height => Surroundings.recovering.run (Indexer.quiet.processIfMissing height))
    .stopping (0, Store.new) rfl rfl
  exact ⟨_, rfl, rfl, rfl, by decide +kernel, bounded.1 ⟨3, by decide +kernel⟩,
    empty 3 (by decide +kernel)⟩

/-- A height that fails at every attempt is never done with. -/
theorem stays_of_fails {kept : σ → Prop} {height : Height}
    (keeps : ∀ other m, kept m → kept (attempt other m).2)
    (fails : ∀ m, kept m → ∃ f, (attempt height m).1 = .error f)
    (opened : p.queue.closed = false) (waits : height ∈ p.queue.waiting) (holds : kept m)
    (n : Nat) : ((alone index attempt).turns n p m).1.1 = false := by
  induction n generalizing p m with
  | zero => rfl
  | succ n ih =>
      obtain ⟨other, rest, queued⟩ := List.exists_cons_of_ne_nil (List.ne_nil_of_mem waits)
      rw [turns_waiting n opened queued]
      rw [queued] at waits
      -- The first in the queue is the failing height, or another one, which may go away.
      cases tried : (attempt other m).1 with
      | ok _ =>
          refine ih opened ?_ (keeps other m holds)
          rcases List.mem_cons.1 waits with rfl | later
          · obtain ⟨f, failed⟩ := fails m holds
            cases tried.symm.trans failed
          · exact later
      | error f =>
          refine ih opened ?_ (keeps other m holds)
          rcases List.mem_cons.1 waits with rfl | later
          · exact List.mem_append_right _ (List.mem_singleton_self _)
          · exact List.mem_append_left _ later

/-- The signal is raised, and the node is down for good. -/
theorem never_leaves_down :
    ¬ ∃ n, ((alone 0 fun height =>
      Surroundings.down.run (Indexer.quiet.processIfMissing height)).turns n Pool.stopping
        ((), Store.new)).1.1 = true := by
  rintro ⟨n, leaves⟩
  have unchanged (height : Height) : ∃ f,
      Surroundings.down.run (Indexer.quiet.processIfMissing height) ((), Store.new) =
        (.error f, (), Store.new) := by
    by_cases genesis : height = 0
    · rw [genesis]
      exact ⟨_, rfl⟩
    · unfold Indexer.processIfMissing Indexer.process
      rw [if_neg genesis, if_neg genesis]
      exact ⟨_, rfl⟩
  have keeps (height : Height) (m : Unit × Store) (new : m = ((), Store.new)) :
      (Surroundings.down.run (Indexer.quiet.processIfMissing height) m).2 = ((), Store.new) := by
    obtain ⟨f, same⟩ := unchanged height
    rw [new, same]
  have fails (m : Unit × Store) (new : m = ((), Store.new)) :
      ∃ f, (Surroundings.down.run (Indexer.quiet.processIfMissing 5) m).1 = .error f := by
    obtain ⟨f, same⟩ := unchanged 5
    exact ⟨f, by rw [new, same]⟩
  exact Bool.false_ne_true ((stays_of_fails keeps fails rfl (.head _) rfl n).symm.trans leaves)

end Worker
end ChainIndexer
