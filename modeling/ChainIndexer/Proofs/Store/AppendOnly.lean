import ChainIndexer.Proofs.Store.Entry
import ChainIndexer.Proofs.Store.Slot

/-! Rows that are written once. A step of the store leaves a stored row as it is, or prunes it away
with all others below its boundary, and a free key takes the first row that the step saves for it.
-/
namespace ChainIndexer

namespace Store

theorem refuses_prune (s : Store) (boundary : Height) : s.refuses (.prune boundary) = s.closed :=
  Bool.and_true _

theorem refuses_of_removes {s : Store} {op : Operation} {height : Height}
    (removes : op.removes height = true) : s.refuses op = s.closed := by
  cases op with
  | prune boundary => exact s.refuses_prune boundary
  | _ => cases removes

end Store

namespace Entry

variable {e : Entry} {s : Store}

theorem row?_perform_some {row : e.Row} (stored : e.row? s.tables = some row) (op : Operation) :
    e.row? (s.perform op).2.tables =
      if s.closed = false ∧ op.removes (e.height row) = true then none else some row := by
  by_cases refused : s.refuses op = true
  · have kept : ¬ (s.closed = false ∧ op.removes (e.height row) = true) := by
      rintro ⟨opened, removes⟩
      rw [Store.refuses_of_removes removes, opened] at refused
      cases refused
    rw [Store.perform_refused refused, if_neg kept, stored]
  · rw [(Store.perform_accepted refused).2, row?_effect_some stored]
    by_cases removes : op.removes (e.height row) = true
    · rw [Store.refuses_of_removes removes, Bool.not_eq_true] at refused
      rw [if_pos removes, if_pos ⟨refused, removes⟩]
    · rw [if_neg removes, if_neg fun both => removes both.2]

theorem row?_perform_none (free : e.row? s.tables = none) (op : Operation) :
    e.row? (s.perform op).2.tables =
      if s.refuses op = true then none else (e.carried op).head? := by
  split
  · rename_i refused
    rw [Store.perform_refused refused, free]
  · rename_i accepted
    rw [(Store.perform_accepted accepted).2, row?_effect_none free]

theorem row?_perform_prune (e : Entry) (s : Store) (boundary : Height) (row : e.Row) :
    e.row? (s.perform (.prune boundary)).2.tables = some row ↔
      e.row? s.tables = some row ∧ (s.closed = true ∨ boundary ≤ e.height row) := by
  cases before : e.row? s.tables with
  | none =>
      rw [row?_perform_none before, carried_prune]
      simp
  | some stored =>
      rw [row?_perform_some before]
      cases closed : s.closed with
      | true => simp
      | false =>
          by_cases below : e.height stored < boundary
          · have removed : ∀ row, stored = row → ¬ boundary ≤ e.height row := by
              rintro row rfl
              exact UInt64.not_le.2 below
            simpa [Operation.removes, below] using removed row
          · have stays : ∀ row, stored = row → boundary ≤ e.height row := by
              rintro row rfl
              exact UInt64.not_lt.1 below
            simpa [Operation.removes, below] using stays row

end Entry

namespace Store

/-- Pruning touches nothing that is kept up to date, and not the genesis row. -/
theorem perform_prune_elsewhere (s : Store) (boundary : Height) :
    (∀ slot : Slot, slot.row? (s.perform (.prune boundary)).2.tables = slot.row? s.tables) ∧
      (s.perform (.prune boundary)).2.tables.genesis = s.tables.genesis := by
  by_cases refused : s.refuses (.prune boundary) = true
  · rw [perform_refused refused]
    exact ⟨fun _ => rfl, rfl⟩
  · rw [(perform_accepted refused).2]
    refine ⟨fun slot => ?_, rfl⟩
    rw [slot.row?_effect, slot.carried_prune]
    rfl

/-- Blocks, transactions, messages and commit signatures are only ever appended. In every run of
operations from a new store on, each stored row is found under its natural key; a step leaves it
there unchanged, unless the store is open and the step prunes the row's height, which removes the
row; and a key that is free takes the first row that the step saves for it, if it is not refused.
So pruning removes exactly the rows below its boundary, and nothing that is not of these four
kinds. -/
theorem append_only (ops : List Operation) :
    (∀ (e : Entry) (row : e.Row), e.row? (new.run ops).tables = some row → e.Fits row) ∧
    (∀ (op : Operation) (e : Entry) (row : e.Row), e.row? (new.run ops).tables = some row →
      e.row? (new.run (ops ++ [op])).tables =
        if (new.run ops).closed = false ∧ op.removes (e.height row) = true then none
        else some row) ∧
    (∀ (op : Operation) (e : Entry), e.row? (new.run ops).tables = none →
      e.row? (new.run (ops ++ [op])).tables =
        if (new.run ops).refuses op = true then none else (e.carried op).head?) ∧
    ∀ boundary : Height,
      (∀ (e : Entry) (row : e.Row),
        e.row? (new.run (ops ++ [.prune boundary])).tables = some row ↔
          e.row? (new.run ops).tables = some row ∧
            ((new.run ops).closed = true ∨ boundary ≤ e.height row)) ∧
      (∀ slot : Slot, slot.row? (new.run (ops ++ [.prune boundary])).tables =
        slot.row? (new.run ops).tables) ∧
      (new.run (ops ++ [.prune boundary])).tables.genesis = (new.run ops).tables.genesis := by
  refine ⟨fun e row => Entry.fits_of_row?_eq_some, ?_, ?_, fun boundary => ?_⟩
  · intro op e row stored
    rw [run_concat]
    exact Entry.row?_perform_some stored op
  · intro op e free
    rw [run_concat]
    exact Entry.row?_perform_none free op
  · rw [run_concat]
    exact ⟨fun e row => e.row?_perform_prune _ boundary row,
      (new.run ops).perform_prune_elsewhere boundary⟩

/-- Of two signatures with one key in a batch the first is stored, and it is pruned by its own
height. -/
example :
    let first : CommitSignature := ⟨⟨"A"⟩, 5, 0, 4, "noon"⟩
    let second : CommitSignature := ⟨⟨"A"⟩, 6, 0, 9, "noon"⟩
    let stored (ops : List Operation) := (Entry.signature first.key).row? (new.run ops).tables
    stored [.saveCommitSignatures [first, second]] = some first ∧
      stored [.saveCommitSignatures [first, second], .prune 4] = some first ∧
      stored [.saveCommitSignatures [first, second], .prune 5] = none ∧
      stored [.saveCommitSignatures [first, second], .close, .prune 5] = some first := by
  decide

end Store
end ChainIndexer
