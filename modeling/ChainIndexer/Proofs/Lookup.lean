import ChainIndexer.Store.Tables

/-! Tables seen through their keys. Offering rows to a table changes what is under a key by the
rows with that key alone, and a table is no more than the rows under its keys. -/
namespace ChainIndexer

/-- What is under a key after a row with that key was offered. -/
def offer {ρ : Type} (replaces : ρ → ρ → Bool) : Option ρ → ρ → Option ρ
  | none, row => some row
  | some stored, row => some (if replaces row stored then row else stored)

/-- A rule that never replaces keeps what is there, or else takes the first row offered. -/
theorem foldl_offer_never {ρ : Type} (rows : List ρ) (stored : Option ρ) :
    rows.foldl (offer fun _ _ => false) stored = stored.or rows.head? := by
  induction rows generalizing stored with
  | nil => simp
  | cons row rest ih =>
      rw [List.foldl_cons, ih]
      cases stored <;> rfl

namespace Table

variable {ρ κ : Type} [Ord κ] {key : ρ → κ}

theorem nodup_rows [Std.LawfulEqOrd κ] (t : Table key) : t.rows.Nodup := by
  refine t.ascending.imp ?_
  intro a b lt same
  rw [same] at lt
  exact compare_lt_irrefl _ lt

variable [DecidableEq κ] [Std.LawfulEqOrd κ]

theorem get?_eq_some_iff {t : Table key} {k : κ} {row : ρ} :
    t.get? k = some row ↔ row ∈ t.rows ∧ key row = k := by
  constructor
  · intro found
    exact ⟨List.mem_of_find?_eq_some found, by simpa using List.find?_some found⟩
  · rintro ⟨member, rfl⟩
    obtain ⟨rows, ascending⟩ := t
    simp only [get?]
    induction rows with
    | nil => cases member
    | cons first rest ih =>
        obtain ⟨below, rest_asc⟩ := List.pairwise_cons.1 ascending
        rcases List.mem_cons.1 member with rfl | later
        · simp
        · have lt := below row later
          have differs : ¬ key first = key row := by
            intro same
            rw [same] at lt
            exact compare_lt_irrefl _ lt
          rw [List.find?_cons_of_neg (by simpa using differs)]
          exact ih rest_asc later

theorem contains_iff {t : Table key} {k : κ} :
    t.contains k = true ↔ ∃ row ∈ t.rows, key row = k := by
  simp only [contains, Option.isSome_iff_exists, get?_eq_some_iff]

theorem get?_filter (keep : ρ → Bool) (t : Table key) (k : κ) :
    (t.filter keep).get? k = (t.get? k).filter keep := by
  apply Option.ext
  intro row
  rw [get?_eq_some_iff, Option.filter_eq_some_iff, get?_eq_some_iff, filter, List.mem_filter]
  exact and_right_comm

theorem ext_get? [Std.OrientedOrd κ] {t u : Table key} (h : ∀ k, t.get? k = u.get? k) : t = u := by
  have same : ∀ row, row ∈ t.rows ↔ row ∈ u.rows := by
    intro row
    have found := @get?_eq_some_iff _ _ _ _ _ _ t (key row) row
    rw [h, get?_eq_some_iff] at found
    simpa using found.symm
  have rows_eq : t.rows = u.rows := by
    refine List.Perm.eq_of_pairwise ?_ t.ascending u.ascending
      ((List.perm_ext_iff_of_nodup t.nodup_rows u.nodup_rows).2 same)
    intro a b _ _ lt gt
    have swapped : compare (key a) (key b) = (compare (key b) (key a)).swap :=
      Std.OrientedCmp.eq_swap
    rw [gt, lt] at swapped
    exact Ordering.noConfusion swapped
  obtain ⟨rows, _⟩ := t
  cases rows_eq
  rfl

variable [Std.TransOrd κ]

theorem get?_put_eq_offer (replaces : ρ → ρ → Bool) (row : ρ) (t : Table key) (k : κ) :
    (t.put replaces row).get? k =
      if key row = k then offer replaces (t.get? k) row else t.get? k := by
  rw [get?_put]
  split
  · cases t.get? k <;> rfl
  · rfl

theorem get?_putAll (replaces : ρ → ρ → Bool) (rows : List ρ) (t : Table key) (k : κ) :
    (t.putAll replaces rows).get? k =
      (rows.filter (key · = k)).foldl (offer replaces) (t.get? k) := by
  induction rows generalizing t with
  | nil => rfl
  | cons row rest ih =>
      change ((t.put replaces row).putAll replaces rest).get? k = _
      rw [ih, get?_put_eq_offer]
      by_cases hk : key row = k <;> simp [hk]

theorem get?_writeOnce (row : ρ) (t : Table key) (k : κ) :
    (t.writeOnce row).get? k = (t.get? k).or (if key row = k then some row else none) := by
  rw [writeOnce, get?_put_eq_offer]
  split <;> cases t.get? k <;> rfl

theorem get?_writeAllOnce (rows : List ρ) (t : Table key) (k : κ) :
    (t.writeAllOnce rows).get? k = (t.get? k).or (rows.filter (key · = k)).head? := by
  rw [writeAllOnce, get?_putAll, foldl_offer_never]

end Table
end ChainIndexer
