import ChainIndexer.Proofs.Footprint

/-! Surroundings. A node need not answer a question twice in the same way, and files change. What
an attempt finds outside of the store depends on a state that every call may change. -/
namespace ChainIndexer

structure Surroundings (σ : Type) where
  node : (q : Query) → StateM σ (Except Fault q.Answer)
  files : String → StateM σ (Except String Bytes)

namespace Surroundings

open Attempt

variable {σ α β : Type} {o : Surroundings σ}

def handle (o : Surroundings σ) : (c : Effect) → StateM (σ × Store) c.Answer
  | .ask q => fun (m, s) => ((o.node q m).1, (o.node q m).2, s)
  | .load path => fun (m, s) => ((o.files path m).1, (o.files path m).2, s)
  | .log _ => fun state => ((), state)
  | .perform op => fun (m, s) => ((s.perform op).1, m, (s.perform op).2)

def run (o : Surroundings σ) (p : Attempt α) : StateM (σ × Store) (Except Fault α) :=
  Program.run (I := effects) o.handle p.run

theorem run_bind (p : Attempt α) (f : α → Attempt β) (state : σ × Store) :
    o.run (p >>= f) state =
      match o.run p state with
      | (.ok value, next) => o.run (f value) next
      | (.error e, next) => (.error e, next) := by
  refine (congrFun (Program.run_bind o.handle p.run (ExceptT.bindCont f)) state).trans ?_
  change (let (e, next) := o.run p state; Program.run o.handle (ExceptT.bindCont f e) next) = _
  rcases o.run p state with ⟨_ | _, next⟩ <;> rfl

theorem run_within (doing : String) (p : Attempt α) (state : σ × Store) :
    o.run (within doing p) state =
      ((o.run p state).1.mapError (Fault.within doing), (o.run p state).2) :=
  congrFun (Program.run_bind o.handle p.run fun e => .done (e.mapError (Fault.within doing))) state

theorem run_outcome (p : Attempt α) (state : σ × Store) :
    o.run (outcome p) state = (.ok (o.run p state).1, (o.run p state).2) :=
  congrFun (Program.run_bind o.handle p.run
    fun e => .done (.ok e : Except Fault (Except Fault α))) state

theorem run_liftExcept (e : Except Fault α) (state : σ × Store) :
    o.run (liftExcept e) state = (e, state) := by
  cases e <;> rfl

/-! Attempts that only ask. -/

section Asking

/-- The same value, or a failure of the same kind. -/
def SameKind : Except Fault α → Except Fault α → Prop
  | .ok a, .ok b => a = b
  | .error f, .error g => f.kind = g.kind
  | _, _ => False

/-- The attempt asks these questions and leaves the store as it is. Only the words of its failures
are its own. -/
def Asks (o : Surroundings σ) (p : Attempt α) (questions : ExceptT Fault (StateM σ) α) : Prop :=
  ∀ m s, ∃ e, o.run p (m, s) = (e, (questions.run m).2, s) ∧ SameKind e (questions.run m).1

theorem asks_ask (q : Query) : o.Asks (ask q) (.mk (o.node q)) := by
  intro m s
  refine ⟨(o.node q m).1, rfl, ?_⟩
  change SameKind (o.node q m).1 (o.node q m).1
  cases (o.node q m).1 <;> rfl

theorem asks_pure (value : α) : o.Asks (pure value) (pure value) := fun _ _ => ⟨_, rfl, rfl⟩

theorem asks_within {doing : String} {p : Attempt α} {questions : ExceptT Fault (StateM σ) α}
    (h : o.Asks p questions) : o.Asks (within doing p) questions := by
  intro m s
  obtain ⟨e, ran, same⟩ := h m s
  refine ⟨e.mapError (Fault.within doing), ?_, ?_⟩
  · rw [run_within, ran]
  · cases e with
    | ok value => exact same
    | error f =>
        cases answered : (questions.run m).1 with
        | ok value => simp [answered, SameKind] at same
        | error g =>
            rw [answered] at same
            exact (Fault.kind_within doing f).trans same

theorem asks_bind {p : Attempt α} {questions : ExceptT Fault (StateM σ) α} {f : α → Attempt β}
    {more : α → ExceptT Fault (StateM σ) β} (first : o.Asks p questions)
    (rest : ∀ value, o.Asks (f value) (more value)) : o.Asks (p >>= f) (questions >>= more) := by
  intro m s
  obtain ⟨e, ran, same⟩ := first m s
  have split : ((questions >>= more).run m) =
      (ExceptT.bindCont more (questions.run m).1).run (questions.run m).2 := rfl
  rw [split]
  cases answered : (questions.run m).1 with
  | ok value =>
      rw [answered] at same
      cases e with
      | error f => exact same.elim
      | ok value' =>
          obtain rfl : value' = value := same
          rw [run_bind, ran]
          exact rest value' _ s
  | error g =>
      rw [answered] at same
      cases e with
      | ok value => exact same.elim
      | error f =>
          rw [run_bind, ran]
          exact ⟨.error f, rfl, same⟩

/-- After its questions an attempt goes on with what was answered, or it fails. -/
theorem Asks.run_bind {p : Attempt α} {questions : ExceptT Fault (StateM σ) α}
    (h : o.Asks p questions) (f : α → Attempt β) (m : σ) (s : Store) :
    (∃ e, o.run (p >>= f) (m, s) = (.error e, (questions.run m).2, s)) ∨
      ∃ value, (questions.run m).1 = .ok value ∧
        o.run (p >>= f) (m, s) = o.run (f value) ((questions.run m).2, s) := by
  obtain ⟨e, ran, same⟩ := h m s
  rw [Surroundings.run_bind, ran]
  cases e with
  | error f => exact .inl ⟨f, rfl⟩
  | ok value =>
      cases answered : (questions.run m).1 with
      | error g =>
          rw [answered] at same
          exact same.elim
      | ok value' =>
          rw [answered] at same
          obtain rfl : value = value' := same
          exact .inr ⟨value, rfl, rfl⟩

theorem asks_logs (lines : List LogLine) : o.Asks (lines.forM log) (pure ()) := by
  induction lines with
  | nil => exact asks_pure ()
  | cons line lines ih =>
      intro m s
      obtain ⟨e, ran, same⟩ := ih m s
      exact ⟨e, ran, same⟩

end Asking

end Surroundings
end ChainIndexer
