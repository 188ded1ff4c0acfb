import ChainIndexer.Store

/-! Runs of the store: operations one after the other. An operation that is refused leaves no
trace, so that the tables show the operations that were accepted and no others. -/
namespace ChainIndexer

def Tables.after (t : Tables) (ops : List Operation) : Tables :=
  ops.foldl (fun t op => op.effect t) t

@[simp] theorem Tables.after_nil (t : Tables) : t.after [] = t := rfl

@[simp] theorem Tables.after_cons (t : Tables) (op : Operation) (ops : List Operation) :
    t.after (op :: ops) = (op.effect t).after ops := rfl

theorem Tables.after_append (t : Tables) (ops more : List Operation) :
    t.after (ops ++ more) = (t.after ops).after more := List.foldl_append

namespace Store

def run (s : Store) (ops : List Operation) : Store := ops.foldl (fun s op => (s.perform op).2) s

/-- Those of some operations that are answered without a fault, in order. -/
def accepted : Store → List Operation → List Operation
  | _, [] => []
  | s, op :: ops =>
    let later := (s.perform op).2.accepted ops
    if (s.perform op).1.isOk then op :: later else later

theorem run_append (s : Store) (ops more : List Operation) :
    s.run (ops ++ more) = (s.run ops).run more := List.foldl_append

theorem run_concat (s : Store) (ops : List Operation) (op : Operation) :
    s.run (ops ++ [op]) = ((s.run ops).perform op).2 := s.run_append ops [op]

theorem perform_refused {s : Store} {op : Operation} (h : s.refuses op = true) :
    s.perform op = (.error closedFault, s) := if_pos h

theorem perform_accepted {s : Store} {op : Operation} (h : ¬ s.refuses op = true) :
    (s.perform op).1 = .ok (op.answer s.tables) ∧
      (s.perform op).2.tables = op.effect s.tables := by
  have done : s.perform op = (.ok (op.answer s.tables), _) := if_neg h
  rw [done]
  exact ⟨rfl, rfl⟩

/-- An open store accepts everything, and stays open unless it is told to close. -/
theorem perform_opened {s : Store} (opened : s.closed = false) {op : Operation}
    (leaves : op ≠ .close) : s.perform op =
      (.ok (op.answer s.tables), { tables := op.effect s.tables, closed := false }) := by
  have accepts : ¬ s.refuses op = true := by simp [refuses, opened]
  have done : s.perform op = (.ok (op.answer s.tables),
    { tables := op.effect s.tables, closed := s.closed || _ }) := if_neg accepts
  rw [done, opened]
  cases op <;> first | rfl | exact absurd rfl leaves

theorem accepted_cons_refused {s : Store} {op : Operation} (h : s.refuses op = true)
    (ops : List Operation) : s.accepted (op :: ops) = s.accepted ops := by
  simp only [accepted, perform_refused h]
  rfl

theorem accepted_cons_accepted {s : Store} {op : Operation} (h : ¬ s.refuses op = true)
    (ops : List Operation) :
    s.accepted (op :: ops) = op :: (s.perform op).2.accepted ops := by
  simp only [accepted, (perform_accepted h).1]
  rfl

theorem mem_of_mem_accepted {s : Store} {ops : List Operation} {op : Operation}
    (h : op ∈ s.accepted ops) : op ∈ ops := by
  induction ops generalizing s with
  | nil => exact h
  | cons first ops ih =>
      simp only [accepted] at h
      split at h
      · rcases List.mem_cons.1 h with rfl | h
        · exact List.mem_cons_self
        · exact List.mem_cons_of_mem _ (ih h)
      · exact List.mem_cons_of_mem _ (ih h)

theorem tables_run (s : Store) (ops : List Operation) :
    (s.run ops).tables = s.tables.after (s.accepted ops) := by
  induction ops generalizing s with
  | nil => rfl
  | cons op ops ih =>
      change ((s.perform op).2.run ops).tables = _
      by_cases refused : s.refuses op = true
      · rw [perform_refused refused, accepted_cons_refused refused, ih]
      · rw [ih, accepted_cons_accepted refused, (perform_accepted refused).2]
        rfl

end Store
end ChainIndexer
