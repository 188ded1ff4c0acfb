import ChainIndexer.Proofs.Crew
import ChainIndexer.Proofs.Store.Part
import ChainIndexer.Proofs.Surroundings

/-! Closing. Until it is told to close, a store answers whatever it is asked. From then on it
refuses everything but to be closed again and to save no rows, and nothing that is done to it shows
in its tables: no operation, no attempt, and no attempts whose calls are interleaved. -/
namespace ChainIndexer

inductive Operation.EmptyBatch : Operation → Prop
  | messages : EmptyBatch (.saveMessages [])
  | validators : EmptyBatch (.saveValidators [])
  | descriptions : EmptyBatch (.saveDescriptions [])
  | commissions : EmptyBatch (.saveCommissions [])
  | statuses : EmptyBatch (.saveStatuses [])
  | votingPowers : EmptyBatch (.saveVotingPowers [])
  | commitSignatures : EmptyBatch (.saveCommitSignatures [])
  | balances : EmptyBatch (.saveBalances [])

theorem Operation.acceptedWhenClosed_iff {op : Operation} :
    op.acceptedWhenClosed = true ↔ op = .close ∨ op.EmptyBatch := by
  constructor
  · intro accepted
    cases op with
    | close => exact .inl rfl
    | saveMessages rows | saveValidators rows | saveDescriptions rows | saveCommissions rows
    | saveStatuses rows | saveVotingPowers rows | saveCommitSignatures rows | saveBalances rows =>
        obtain rfl : rows = [] := List.isEmpty_iff.1 accepted
        exact .inr (by constructor)
    | _ => cases accepted
  · rintro (rfl | empty)
    · rfl
    · cases empty <;> rfl

namespace Store

variable {s : Store}

theorem refuses_eq_true_iff (shut : s.closed = true) {op : Operation} :
    s.refuses op = true ↔ ¬ (op = .close ∨ op.EmptyBatch) := by
  rw [← Operation.acceptedWhenClosed_iff, refuses, shut]
  simp

theorem closed_perform_close (s : Store) : (s.perform .close).2.closed = true := by
  have accepted : ¬ s.refuses .close = true := by simp [refuses, Operation.acceptedWhenClosed]
  rw [perform, if_neg accepted]
  exact Bool.or_true _

theorem closed_run_iff {ops : List Operation} :
    (s.run ops).closed = true ↔ s.closed = true ∨ .close ∈ ops := by
  induction ops generalizing s with
  | nil => exact (or_iff_left List.not_mem_nil).symm
  | cons op ops ih =>
      refine (ih (s := (s.perform op).2)).trans ?_
      by_cases closes : op = .close
      · subst closes
        simp [closed_perform_close]
      · rw [closed_perform closes, List.mem_cons, or_iff_right (Ne.symm closes)]

theorem run_closed (shut : s.closed = true) (ops : List Operation) : s.run ops = s := by
  induction ops with
  | nil => rfl
  | cons op ops ih =>
      change (s.perform op).2.run ops = s
      rw [perform_closed shut, ih]

theorem tables_run_close (s : Store) (before after : List Operation) :
    (s.run (before ++ .close :: after)).tables = (s.run before).tables := by
  have accepted : ¬ (s.run before).refuses .close = true := by
    simp [refuses, Operation.acceptedWhenClosed]
  rw [run_append]
  change (((s.run before).perform .close).2.run after).tables = _
  rw [run_closed (closed_perform_close _), (perform_accepted accepted).2]
  rfl

end Store

namespace Surroundings

variable {σ α : Type} {s : Store}

theorem handle_closed (o : Surroundings σ) (shut : s.closed = true) (c : Effect) (m : σ) :
    (o.handle c (m, s)).2.2 = s := by
  cases c with
  | perform op => exact Store.perform_closed shut op
  | _ => rfl

/-- An attempt leaves a closed store as it is, however far it comes. -/
theorem run_closed (o : Surroundings σ) (shut : s.closed = true) (p : Attempt α) (m : σ) :
    (o.run p (m, s)).2.2 = s := by
  unfold run
  generalize p.run = program
  induction program generalizing m with
  | done value => rfl
  | call c next ih =>
      change (Program.run o.handle (next (o.handle c (m, s)).1) (o.handle c (m, s)).2).2.2 = s
      have kept : (o.handle c (m, s)).2 = ((o.handle c (m, s)).2.1, s) :=
        Prod.ext rfl (o.handle_closed shut c m)
      rw [kept]
      exact ih _ _

end Surroundings

namespace Crew

variable {crew : Crew}

theorem move_closed (shut : crew.store.closed = true) (m : Move) :
    (crew.move m).store = crew.store := by
  rcases crew.move_cases m with ⟨same, _⟩ | ⟨u, c, next, _, _, moved, _⟩
  · rw [same]
  · rw [moved]
    obtain ⟨i, w, refusal⟩ := m
    cases c with
    | perform op =>
        cases refusal with
        | some f => rfl
        | none => exact Store.perform_closed shut op
    | _ => rfl

theorem play_closed (shut : crew.store.closed = true) (moves : List Move) :
    (crew.play moves).store = crew.store := by
  induction moves generalizing crew with
  | nil => rfl
  | cons m moves ih =>
      have kept := crew.move_closed shut m
      exact (ih (kept ▸ shut)).trans kept

end Crew

namespace Store

/-- Closing freezes the store. In a run of operations from a new store on, nothing is refused
before the first close. Once there was one, whatever comes next leaves the tables as they were at
the close; it is answered with a database fault, unless it closes the store again or saves a batch
without rows. So no attempt, be it at a height, at the genesis state or by modules alone, changes
the store any more, nor do attempts that were under way, however their calls are interleaved. -/
theorem closing_freezes (ops : List Operation) :
    (.close ∉ ops →
      ∀ op : Operation, ((new.run ops).perform op).1 = .ok (op.answer (new.run ops).tables)) ∧
    (.close ∈ ops →
      (∀ op : Operation, (new.run (ops ++ [op])).tables = (new.run ops).tables ∧
        (op = .close ∨ op.EmptyBatch → ∃ a, ((new.run ops).perform op).1 = .ok a) ∧
        (¬ (op = .close ∨ op.EmptyBatch) →
          ∃ f, ((new.run ops).perform op).1 = .error f ∧ f.kind = .databaseFault)) ∧
      (∀ before after, ops = before ++ .close :: after →
        (new.run ops).tables = (new.run before).tables) ∧
      (∀ (σ α : Type) (o : Surroundings σ) (p : Attempt α) (m : σ),
        (o.run p (m, new.run ops)).2.2 = new.run ops) ∧
      ∀ (attempts : List Underway) (moves : List Move),
        (Crew.play ⟨attempts, new.run ops⟩ moves).store = new.run ops) := by
  constructor
  · intro never op
    have opened : (new.run ops).closed = false := by
      rw [Bool.eq_false_iff, Ne, closed_run_iff]
      simp [new, never]
    have accepted : ¬ (new.run ops).refuses op = true := by simp [refuses, opened]
    exact (perform_accepted accepted).1
  · intro closed
    have shut : (new.run ops).closed = true := closed_run_iff.2 (.inr closed)
    refine ⟨fun op => ⟨?_, ?_, ?_⟩, ?_, ?_, ?_⟩
    · rw [run_concat, perform_closed shut]
    · intro spared
      exact ⟨_, (perform_accepted fun refused => (refuses_eq_true_iff shut).1 refused spared).1⟩
    · intro refused
      exact ⟨_, congrArg Prod.fst (perform_refused ((refuses_eq_true_iff shut).2 refused)), rfl⟩
    · rintro before after rfl
      exact new.tables_run_close before after
    · intro σ α o p m
      exact o.run_closed shut p m
    · intro attempts moves
      exact Crew.play_closed shut moves

end Store
end ChainIndexer
