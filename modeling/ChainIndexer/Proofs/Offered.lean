import ChainIndexer.Proofs.Newest

/-! Rows that are offered together, at most one for each key. What is under a key then depends on
the row for the key and on what was stored there. -/
namespace ChainIndexer

section Keyed

variable {ρ κ : Type} [DecidableEq κ] {key : ρ → κ} {keys : List κ} {row? : κ → Option ρ}

/-- Among rows made for distinct keys, those with a key are the one made for it. -/
theorem filter_key_filterMap (distinct : keys.Nodup)
    (keyed : ∀ k row, row? k = some row → key row = k) (k : κ) :
    (keys.filterMap row?).filter (key · = k) = if k ∈ keys then (row? k).toList else [] := by
  induction keys with
  | nil => rfl
  | cons first keys ih =>
      obtain ⟨fresh, distinct⟩ := List.nodup_cons.1 distinct
      have rest := ih distinct
      cases made : row? first with
      | none =>
          rw [List.filterMap_cons_none made, rest]
          by_cases same : k = first
          · rw [same, if_neg fresh, if_pos List.mem_cons_self, made]
            rfl
          · simp only [List.mem_cons, same, false_or]
      | some row =>
          rw [List.filterMap_cons_some made, List.filter_cons, rest, keyed first row made]
          by_cases same : first = k
          · rw [← same, if_neg fresh, if_pos List.mem_cons_self, made]
            simp
          · have other : k ≠ first := fun eq => same eq.symm
            simp only [List.mem_cons, same, other, decide_false, false_or, Bool.false_eq_true,
              if_false]

variable [Ord κ] [Std.TransOrd κ] [Std.LawfulEqOrd κ] {height : ρ → Height}

theorem Table.get?_writeAllLatest_offered (t : Table key) (distinct : keys.Nodup)
    (keyed : ∀ k row, row? k = some row → key row = k) {k : κ} (listed : k ∈ keys) {row : ρ}
    (made : row? k = some row) :
    (t.writeAllLatest height (keys.filterMap row?)).get? k = latest height row (t.get? k) := by
  rw [writeAllLatest, get?_putAll, filter_key_filterMap distinct keyed, if_pos listed, made,
    latest_eq_offer]
  rfl

theorem Table.get?_writeAllLatest_unoffered (t : Table key) (distinct : keys.Nodup)
    (keyed : ∀ k row, row? k = some row → key row = k) {k : κ}
    (none : k ∈ keys → row? k = none) :
    (t.writeAllLatest height (keys.filterMap row?)).get? k = t.get? k := by
  rw [writeAllLatest, get?_putAll, filter_key_filterMap distinct keyed]
  split
  · rename_i listed
    rw [none listed]
    rfl
  · rfl

theorem Table.get?_writeAllLatest_map (t : Table key) (distinct : keys.Nodup) {row : κ → ρ}
    (keyed : ∀ k, key (row k) = k) (k : κ) :
    (t.writeAllLatest height (keys.map row)).get? k =
      if k ∈ keys then latest height (row k) (t.get? k) else t.get? k := by
  have made : ∀ k' row', some (row k') = some row' → key row' = k' := by
    rintro k' _ ⟨⟩
    exact keyed k'
  rw [← congrFun (List.filterMap_eq_map' (f := row)) keys]
  split
  · rename_i listed
    exact t.get?_writeAllLatest_offered distinct made listed rfl
  · rename_i unlisted
    exact t.get?_writeAllLatest_unoffered distinct made fun listed => absurd listed unlisted

end Keyed
end ChainIndexer
