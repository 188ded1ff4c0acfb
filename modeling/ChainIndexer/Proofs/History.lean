import ChainIndexer.Attempt

/-! Histories of attempts. An attempt makes calls and is answered; which calls it may make and
which answers it may get is agreed in a contract that can refer to what has passed before. What an
attempt keeps to is found out call by call, along its text. -/
namespace ChainIndexer

structure Exchange where
  call : Effect
  answer : call.Answer

abbrev History := List Exchange

def History.performed (past : History) : List Operation :=
  past.filterMap fun
    | ⟨.perform op, .ok _⟩ => some op
    | _ => none

@[simp] theorem History.performed_append (past more : History) :
    (past ++ more : History).performed = past.performed ++ History.performed more :=
  List.filterMap_append

theorem History.mem_performed {past : History} {op : Operation} :
    op ∈ past.performed ↔ ∃ a, (⟨.perform op, .ok a⟩ : Exchange) ∈ past := by
  rw [performed, List.mem_filterMap]
  constructor
  · rintro ⟨e, member, shown⟩
    split at shown
    · cases shown
      exact ⟨_, member⟩
    · cases shown
  · rintro ⟨a, member⟩
    exact ⟨_, member, rfl⟩

/-- What is agreed between an attempt and the outside. -/
structure Contract where
  calls : History → Effect → Prop
  answers : History → (c : Effect) → c.Answer → Prop

def Contract.Refuses (k : Contract) : Prop :=
  ∃ past op f, k.answers past (.perform op) (.error f)

variable {α β : Type} {k : Contract}

/-- The program makes no calls but those agreed on and, if it is answered as agreed, comes to an
end that is as wanted. -/
def Program.Keeps (k : Contract) (wanted : α → History → Prop) :
    Program effects α → History → Prop
  | .done value, past => wanted value past
  | .call c next, past =>
    k.calls past c ∧ ∀ a, k.answers past c a → (next a).Keeps k wanted (past ++ [⟨c, a⟩])

theorem Program.keeps_bind {wanted : β → History → Prop} (p : Program effects α)
    (f : α → Program effects β) (past : History) :
    (p.bind f).Keeps k wanted past ↔
      p.Keeps k (fun value past => (f value).Keeps k wanted past) past := by
  induction p generalizing past with
  | done value => exact Iff.rfl
  | call c next ih =>
      refine and_congr_right fun _ => forall_congr' fun a => imp_congr_right fun _ => ?_
      exact ih a _

theorem Program.Keeps.imp {j : Contract} {wanted wanted' : α → History → Prop}
    (calls : ∀ past c, k.calls past c → j.calls past c)
    (answers : ∀ past c a, j.answers past c a → k.answers past c a)
    (ends : ∀ value past, wanted value past → wanted' value past) {p : Program effects α}
    {past : History} (h : p.Keeps k wanted past) : p.Keeps j wanted' past := by
  induction p generalizing past with
  | done value => exact ends value past h
  | call c next ih =>
      refine ⟨calls past c h.1, ?_⟩
      intro a agreed
      exact ih a (h.2 a (answers past c a agreed))

theorem Program.Keeps.extends {wanted : α → History → Prop} {p : Program effects α}
    {past : History} (h : p.Keeps k wanted past) :
    p.Keeps k (fun value later => past <+: later ∧ wanted value later) past := by
  induction p generalizing past with
  | done value => exact ⟨List.prefix_rfl, h⟩
  | call c next ih =>
      refine ⟨h.1, ?_⟩
      intro a agreed
      refine (ih a (h.2 a agreed)).imp (fun _ _ permitted => permitted)
        (fun _ _ _ permitted => permitted) ?_
      rintro value later ⟨begun, ended⟩
      exact ⟨(List.prefix_append past _).trans begun, ended⟩

/-- Two ways in which an attempt ends: with a value, or with a fault. -/
def Ending (good : α → History → Prop) (bad : Fault → History → Prop) :
    Except Fault α → History → Prop
  | .ok value => good value
  | .error f => bad f

namespace Attempt

def Keeps (k : Contract) (good : α → History → Prop) (bad : Fault → History → Prop)
    (p : Attempt α) (past : History) : Prop :=
  Program.Keeps k (Ending good bad) p.run past

theorem Keeps.imp {good good' : α → History → Prop} {bad bad' : Fault → History → Prop}
    {p : Attempt α} {past : History} (h : p.Keeps k good bad past)
    (value : ∀ value past, good value past → good' value past)
    (fault : ∀ f past, bad f past → bad' f past) : p.Keeps k good' bad' past := by
  refine Program.Keeps.imp (fun _ _ permitted => permitted) (fun _ _ _ permitted => permitted) ?_ h
  intro ended past held
  cases ended with
  | ok v => exact value v past held
  | error f => exact fault f past held

theorem Keeps.extends {good : α → History → Prop} {bad : Fault → History → Prop} {p : Attempt α}
    {past : History} (h : p.Keeps k good bad past) :
    p.Keeps k (fun value later => past <+: later ∧ good value later)
      (fun f later => past <+: later ∧ bad f later) past := by
  refine Program.Keeps.imp (fun _ _ permitted => permitted) (fun _ _ _ permitted => permitted) ?_
    (Program.Keeps.extends h)
  intro ended later held
  cases ended with
  | ok v => exact held
  | error f => exact held

section Rules

variable {good : α → History → Prop} {bad : Fault → History → Prop} {past : History}

@[simp] theorem keeps_pure (value : α) :
    Keeps k good bad (pure value) past ↔ good value past := Iff.rfl

theorem keeps_bind {good : β → History → Prop} (p : Attempt α) (f : α → Attempt β) :
    Keeps k good bad (p >>= f) past ↔
      Keeps k (fun value past => Keeps k good bad (f value) past) bad p past := by
  refine (Program.keeps_bind p.run _ past).trans (Iff.of_eq ?_)
  refine congrArg (fun wanted => Program.Keeps k wanted p.run past) ?_
  funext ended past
  cases ended <;> rfl

theorem keeps_within (doing : String) (p : Attempt α) :
    Keeps k good bad (within doing p) past ↔
      Keeps k good (fun f => bad (f.within doing)) p past := by
  refine (Program.keeps_bind p.run _ past).trans (Iff.of_eq ?_)
  refine congrArg (fun wanted => Program.Keeps k wanted p.run past) ?_
  funext ended past
  cases ended <;> rfl

theorem keeps_outcome {good : Except Fault α → History → Prop} (p : Attempt α) :
    Keeps k good bad (outcome p) past ↔
      Keeps k (fun value => good (.ok value)) (fun f => good (.error f)) p past := by
  refine (Program.keeps_bind p.run _ past).trans (Iff.of_eq ?_)
  refine congrArg (fun wanted => Program.Keeps k wanted p.run past) ?_
  funext ended past
  cases ended <;> rfl

theorem keeps_ask {q : Query} {good : q.Answer → History → Prop} :
    Keeps k good bad (ask q) past ↔ k.calls past (.ask q) ∧
      ∀ a, k.answers past (.ask q) a → Ending good bad a (past ++ [⟨.ask q, a⟩]) := Iff.rfl

theorem keeps_perform {op : Operation} {good : op.Answer → History → Prop} :
    Keeps k good bad (perform op) past ↔ k.calls past (.perform op) ∧
      ∀ a, k.answers past (.perform op) a → Ending good bad a (past ++ [⟨.perform op, a⟩]) :=
  Iff.rfl

theorem keeps_question {q : Query} (agreed : k.calls past (.ask q)) :
    Keeps k
      (fun a later => k.answers past (.ask q) (.ok a) ∧ later = past ++ [⟨.ask q, .ok a⟩])
      (fun f later => k.answers past (.ask q) (.error f) ∧ later = past ++ [⟨.ask q, .error f⟩])
      (ask q) past := by
  rw [keeps_ask]
  refine ⟨agreed, ?_⟩
  intro a permitted
  cases a with
  | ok value => exact ⟨permitted, rfl⟩
  | error f => exact ⟨permitted, rfl⟩

/-- An operation that is agreed on is done, unless the store is allowed to refuse. -/
theorem keeps_write {op : Operation} (agreed : k.calls past (.perform op)) :
    Keeps k (fun _ later => later.performed = past.performed ++ [op]) (fun _ _ => k.Refuses)
      (perform op) past := by
  rw [keeps_perform]
  refine ⟨agreed, ?_⟩
  intro a permitted
  cases a with
  | ok value => exact History.performed_append past _
  | error f => exact ⟨past, op, f, permitted⟩

theorem keeps_load {path : String} {good : Except String Bytes → History → Prop} :
    Keeps k good bad (load path) past ↔ k.calls past (.load path) ∧
      ∀ a, k.answers past (.load path) a → good a (past ++ [⟨.load path, a⟩]) := Iff.rfl

theorem keeps_log {line : LogLine} {good : Unit → History → Prop} :
    Keeps k good bad (log line) past ↔ k.calls past (.log line) ∧
      ∀ a, k.answers past (.log line) a → good () (past ++ [⟨.log line, a⟩]) := Iff.rfl

theorem keeps_liftExcept (e : Except Fault α) :
    Keeps k good bad (liftExcept e) past ↔ Ending good bad e past := by
  cases e <;> rfl

end Rules

end Attempt
end ChainIndexer
