import ChainIndexer.Proofs.Lookup
import ChainIndexer.Proofs.Store.Run

/-! Entries: the places of the store for one row that is written once. A row stays in its entry
until the height that it belongs to is pruned, and as long as nothing is pruned, an entry holds the
first row that was ever saved for it. -/
namespace ChainIndexer

def Operation.prunes : Operation → Bool
  | .prune _ => true
  | _ => false

def Operation.removes : Operation → Height → Bool
  | .prune boundary, height => height < boundary
  | _, _ => false

theorem Operation.removes_iff {op : Operation} {height : Height} :
    op.removes height = true ↔ ∃ boundary, op = .prune boundary ∧ height < boundary := by
  cases op with
  | prune boundary => simp [removes]
  | _ => simp [removes]

theorem Operation.prunes_cases (op : Operation) :
    (∃ boundary, op = .prune boundary) ∨
      op.prunes = false ∧ ∀ height, op.removes height = false := by
  cases op with
  | prune boundary => exact .inl ⟨boundary, rfl⟩
  | _ => exact .inr ⟨rfl, fun _ => rfl⟩

/-- A place for one row that is written once. -/
inductive Entry where
  | block (height : Height)
  | tx (hash : String)
  | message (key : MessageRow.Key)
  | signature (key : CommitSignature.Key)

namespace Entry

@[reducible] def Row : Entry → Type
  | block _ => BlockRecord
  | tx _ => Transaction
  | message _ => MessageRow
  | signature _ => CommitSignature

def row? : (e : Entry) → Tables → Option e.Row
  | block height, t => t.blocks.get? height
  | tx hash, t => t.txs.get? hash
  | message key, t => t.messages.get? key
  | signature key, t => t.commitSignatures.get? key

def height : (e : Entry) → e.Row → Height
  | block _ => BlockRecord.height
  | tx _ => Transaction.height
  | message _ => MessageRow.height
  | signature _ => CommitSignature.height

/-- The entry is the one that the row's own fields name. -/
def Fits : (e : Entry) → e.Row → Prop
  | block height, row => row.height = height
  | tx hash, row => row.hash = hash
  | message key, row => row.txHash = key.txHash ∧ row.index = key.index
  | signature key, row =>
    row.validatorAddress = key.validatorAddress ∧ row.timestamp = key.timestamp

def carried (e : Entry) (op : Operation) : List e.Row :=
  match e with
  | block height =>
    match op with
    | .saveBlock row => [row].filter (·.height = height)
    | _ => []
  | tx hash =>
    match op with
    | .saveTx row => [row].filter (·.hash = hash)
    | _ => []
  | message key =>
    match op with
    | .saveMessages rows => rows.filter (·.key = key)
    | _ => []
  | signature key =>
    match op with
    | .saveCommitSignatures rows => rows.filter (·.key = key)
    | _ => []

/-- An operation that removes nothing writes the first row it carries, if the entry is free. -/
theorem row?_effect (e : Entry) {op : Operation} (keeps : op.prunes = false) (t : Tables) :
    e.row? (op.effect t) = (e.row? t).or (e.carried op).head? := by
  cases e with
  | block height =>
      cases op with
      | saveBlock row => exact Table.get?_writeAllOnce [row] t.blocks height
      | prune _ => cases keeps
      | _ => exact Option.or_none.symm
  | tx hash =>
      cases op with
      | saveTx row => exact Table.get?_writeAllOnce [row] t.txs hash
      | prune _ => cases keeps
      | _ => exact Option.or_none.symm
  | message key =>
      cases op with
      | saveMessages rows => exact Table.get?_writeAllOnce rows t.messages key
      | prune _ => cases keeps
      | _ => exact Option.or_none.symm
  | signature key =>
      cases op with
      | saveCommitSignatures rows => exact Table.get?_writeAllOnce rows t.commitSignatures key
      | prune _ => cases keeps
      | _ => exact Option.or_none.symm

theorem row?_prune (e : Entry) (boundary : Height) (t : Tables) :
    e.row? (t.prune boundary) = (e.row? t).filter (boundary ≤ e.height ·) := by
  cases e with
  | block height => exact Table.get?_filter _ t.blocks height
  | tx hash => exact Table.get?_filter _ t.txs hash
  | message key => exact Table.get?_filter _ t.messages key
  | signature key => exact Table.get?_filter _ t.commitSignatures key

@[simp] theorem carried_prune (e : Entry) (boundary : Height) :
    e.carried (.prune boundary) = [] := by
  cases e <;> rfl

theorem row?_effect_some {e : Entry} {t : Tables} {row : e.Row} (stored : e.row? t = some row)
    (op : Operation) :
    e.row? (op.effect t) = if op.removes (e.height row) then none else some row := by
  rcases op.prunes_cases with ⟨boundary, rfl⟩ | ⟨keeps, stays⟩
  · refine (e.row?_prune boundary t).trans ?_
    rw [stored]
    by_cases below : e.height row < boundary
    · simp [Operation.removes, Option.filter, below, UInt64.not_le.2 below]
    · simp [Operation.removes, Option.filter, below, UInt64.not_lt.1 below]
  · rw [e.row?_effect keeps, stored, stays]
    rfl

theorem row?_effect_none {e : Entry} {t : Tables} (free : e.row? t = none) (op : Operation) :
    e.row? (op.effect t) = (e.carried op).head? := by
  rcases op.prunes_cases with ⟨boundary, rfl⟩ | ⟨keeps, _⟩
  · refine (e.row?_prune boundary t).trans ?_
    rw [free, carried_prune]
    rfl
  · rw [e.row?_effect keeps, free, Option.none_or]

theorem row?_empty (e : Entry) : e.row? {} = none := by
  cases e <;> rfl

theorem fits_of_row?_eq_some {e : Entry} {t : Tables} {row : e.Row}
    (stored : e.row? t = some row) : e.Fits row := by
  cases e with
  | block height => exact (Table.get?_eq_some_iff.1 stored).2
  | tx hash => exact (Table.get?_eq_some_iff.1 stored).2
  | message key =>
      have same : row.key = key := (Table.get?_eq_some_iff.1 stored).2
      exact ⟨congrArg MessageRow.Key.txHash same, congrArg MessageRow.Key.index same⟩
  | signature key =>
      have same : row.key = key := (Table.get?_eq_some_iff.1 stored).2
      exact ⟨congrArg CommitSignature.Key.validatorAddress same,
        congrArg CommitSignature.Key.timestamp same⟩

/-- A row that is there was there before, or some operation carried it. -/
theorem stored_or_carried {e : Entry} {t : Tables} {ops : List Operation} {row : e.Row}
    (stored : e.row? (t.after ops) = some row) :
    e.row? t = some row ∨ ∃ op ∈ ops, row ∈ e.carried op := by
  induction ops generalizing t with
  | nil => exact .inl stored
  | cons op ops ih =>
      rcases ih stored with between | ⟨op', later, carried⟩
      · cases before : e.row? t with
        | some row' =>
            rw [row?_effect_some before] at between
            split at between
            · cases between
            · exact .inl between
        | none =>
            rw [row?_effect_none before] at between
            exact .inr ⟨op, List.mem_cons_self, List.mem_of_head? between⟩
      · exact .inr ⟨op', List.mem_cons_of_mem _ later, carried⟩

/-- An entry that is taken, or for which a row is carried, stays taken, unless the row that took it
is pruned. -/
theorem stored_or_pruned {e : Entry} {t : Tables} {ops : List Operation}
    (h : (e.row? t).isSome = true ∨ ∃ op ∈ ops, e.carried op ≠ []) :
    (e.row? (t.after ops)).isSome = true ∨
      ∃ earlier boundary stored, earlier ++ [.prune boundary] <+: ops ∧
        e.row? (t.after earlier) = some stored ∧ e.height stored < boundary := by
  induction ops generalizing t with
  | nil =>
      rcases h with taken | ⟨op, none, _⟩
      · exact .inl taken
      · cases none
  | cons op ops ih =>
      have later (h : (e.row? (op.effect t)).isSome = true ∨ ∃ op ∈ ops, e.carried op ≠ []) :
          (e.row? (t.after (op :: ops))).isSome = true ∨
            ∃ earlier boundary stored, earlier ++ [.prune boundary] <+: op :: ops ∧
              e.row? (t.after earlier) = some stored ∧ e.height stored < boundary := by
        refine (ih h).imp id ?_
        rintro ⟨earlier, boundary, stored, begun, pruned⟩
        exact ⟨op :: earlier, boundary, stored, List.prefix_cons_iff.2 (.inr ⟨_, rfl, begun⟩),
          pruned⟩
      cases before : e.row? t with
      | some stored =>
          by_cases removes : op.removes (e.height stored) = true
          · obtain ⟨boundary, rfl, below⟩ := Operation.removes_iff.1 removes
            exact .inr ⟨[], boundary, stored, List.prefix_append [_] ops, before, below⟩
          · refine later (.inl ?_)
            rw [row?_effect_some before, if_neg removes]
            rfl
      | none =>
          rcases h with taken | ⟨op', member, carried⟩
          · rw [before] at taken
            cases taken
          · rcases List.mem_cons.1 member with rfl | member
            · refine later (.inl ?_)
              rw [row?_effect_none before]
              exact List.isSome_head?.2 carried
            · exact later (.inr ⟨op', member, carried⟩)

theorem row?_after (e : Entry) {ops : List Operation} (keeps : ∀ op ∈ ops, op.prunes = false)
    (t : Tables) : e.row? (t.after ops) = (e.row? t).or (ops.flatMap e.carried).head? := by
  induction ops generalizing t with
  | nil => exact Option.or_none.symm
  | cons op ops ih =>
      rw [Tables.after_cons, ih fun o member => keeps o (List.mem_cons_of_mem _ member),
        e.row?_effect (keeps op List.mem_cons_self), Option.or_assoc, List.flatMap_cons,
        List.head?_append]

/-- From empty tables on, an entry is taken exactly if some operation carried a row for it. -/
theorem isSome_row?_after_empty (e : Entry) {ops : List Operation}
    (keeps : ∀ op ∈ ops, op.prunes = false) :
    (e.row? (({} : Tables).after ops)).isSome ↔ ∃ op ∈ ops, e.carried op ≠ [] := by
  rw [e.row?_after keeps, e.row?_empty, Option.none_or, List.isSome_head?]
  constructor
  · intro some
    obtain ⟨row, member⟩ := List.exists_mem_of_ne_nil _ some
    obtain ⟨op, performed, carried⟩ := List.mem_flatMap.1 member
    exact ⟨op, performed, List.ne_nil_of_mem carried⟩
  · rintro ⟨op, performed, carried⟩ none
    exact carried (List.flatMap_eq_nil_iff.1 none op performed)

/-- A row that was saved for an entry is there, as long as nothing is pruned. -/
theorem isSome_of_mem {log : List Operation} (keeps : ∀ op ∈ log, op.prunes = false)
    (e : Entry) {op : Operation} (done : op ∈ log) {row : e.Row} (carried : row ∈ e.carried op) :
    (e.row? (({} : Tables).after log)).isSome = true :=
  (e.isSome_row?_after_empty keeps).2 ⟨op, done, List.ne_nil_of_mem carried⟩

theorem exists_of_row?_eq_some {log : List Operation} (e : Entry) {row : e.Row}
    (stored : e.row? (({} : Tables).after log) = some row) : ∃ op ∈ log, row ∈ e.carried op := by
  rcases stored_or_carried stored with never | carried
  · rw [e.row?_empty] at never
    cases never
  · exact carried

end Entry
end ChainIndexer
