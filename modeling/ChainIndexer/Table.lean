/-! Tables of rows. A row knows its key, and the rows of a table stand in ascending order of their
keys, so that no two rows have one key. Everything a table holds is seen through `get?`. -/
namespace ChainIndexer

structure Table {ρ κ : Type} [Ord κ] (key : ρ → κ) where
  rows : List ρ
  ascending : rows.Pairwise fun a b => compare (key a) (key b) = .lt

namespace Table

variable {ρ κ : Type} [Ord κ] {key : ρ → κ}

def empty : Table key := ⟨[], .nil⟩

instance : EmptyCollection (Table key) := ⟨empty⟩

def size (t : Table key) : Nat := t.rows.length

def last? (t : Table key) : Option ρ := t.rows.getLast?

def get? [DecidableEq κ] (t : Table key) (k : κ) : Option ρ := t.rows.find? fun row => key row = k

def contains [DecidableEq κ] (t : Table key) (k : κ) : Bool := (t.get? k).isSome

def filter (keep : ρ → Bool) (t : Table key) : Table key :=
  ⟨t.rows.filter keep, t.ascending.filter keep⟩

/-- Puts a row at its place among ascending rows. A row with the same key stays unless the new one
replaces it. -/
def putRow (key : ρ → κ) (replaces : ρ → ρ → Bool) (row : ρ) : List ρ → List ρ
  | [] => [row]
  | stored :: rest =>
    match compare (key row) (key stored) with
    | .lt => row :: stored :: rest
    | .eq => (if replaces row stored then row else stored) :: rest
    | .gt => stored :: putRow key replaces row rest

variable [Std.LawfulEqOrd κ]

theorem eq_of_compare_eq {a b : κ} (h : compare a b = .eq) : a = b :=
  Std.LawfulEqCmp.eq_of_compare h

theorem compare_lt_irrefl (a : κ) : compare a a ≠ .lt := by simp

/-- Every row after a put was there or is the new one. -/
theorem key_of_mem_putRow {replaces : ρ → ρ → Bool} {row : ρ} :
    ∀ {rows : List ρ} {r : ρ}, r ∈ putRow key replaces row rows →
      key r = key row ∨ ∃ s ∈ rows, key r = key s
  | [], r, h => by
    rw [List.mem_singleton.1 h]
    exact .inl rfl
  | stored :: rest, r, h => by
    unfold putRow at h
    split at h
    · rcases List.mem_cons.1 h with h | h
      · exact .inl (congrArg key h)
      · exact .inr ⟨r, h, rfl⟩
    · rename_i heq
      rcases List.mem_cons.1 h with h | h
      · have : key row = key stored := eq_of_compare_eq heq
        split at h <;> simp [h, this]
      · exact .inr ⟨r, List.mem_cons_of_mem _ h, rfl⟩
    · rcases List.mem_cons.1 h with h | h
      · exact .inr ⟨stored, List.mem_cons_self, congrArg key h⟩
      · rcases key_of_mem_putRow h with h | ⟨s, hs, h⟩
        · exact .inl h
        · exact .inr ⟨s, List.mem_cons_of_mem _ hs, h⟩

variable [Std.TransOrd κ]

theorem ascending_putRow {replaces : ρ → ρ → Bool} {row : ρ} {rows : List ρ}
    (h : rows.Pairwise fun a b => compare (key a) (key b) = .lt) :
    (putRow key replaces row rows).Pairwise fun a b => compare (key a) (key b) = .lt := by
  induction rows with
  | nil => exact List.pairwise_singleton _ _
  | cons stored rest ih =>
    obtain ⟨below, rest_asc⟩ := List.pairwise_cons.1 h
    unfold putRow
    split
    · rename_i hlt
      refine List.pairwise_cons.2 ⟨fun s hs => ?_, h⟩
      rcases List.mem_cons.1 hs with rfl | hs
      · exact hlt
      · exact Std.TransCmp.lt_trans hlt (below s hs)
    · rename_i heq
      have hkey : key row = key stored := eq_of_compare_eq heq
      refine List.pairwise_cons.2 ⟨fun s hs => ?_, rest_asc⟩
      split
      · rw [hkey]; exact below s hs
      · exact below s hs
    · rename_i hgt
      refine List.pairwise_cons.2 ⟨fun s hs => ?_, ih rest_asc⟩
      rcases key_of_mem_putRow hs with h | ⟨s', hs', h⟩
      · rw [h]; exact Std.OrientedCmp.lt_of_gt hgt
      · rw [h]; exact below s' hs'

/-- Offers a row. If its key is taken, it replaces the stored row only where `replaces` says so,
given the offered row and the stored one. -/
def put (replaces : ρ → ρ → Bool) (row : ρ) (t : Table key) : Table key :=
  ⟨putRow key replaces row t.rows, ascending_putRow t.ascending⟩

def putAll (replaces : ρ → ρ → Bool) (rows : List ρ) (t : Table key) : Table key :=
  rows.foldl (fun t row => t.put replaces row) t

variable [DecidableEq κ]

theorem find?_putRow {replaces : ρ → ρ → Bool} {row : ρ} {rows : List ρ}
    (h : rows.Pairwise fun a b => compare (key a) (key b) = .lt) (k : κ) :
    (putRow key replaces row rows).find? (fun r => key r = k) =
      if key row = k then
        match rows.find? (fun r => key r = k) with
        | none => some row
        | some stored => some (if replaces row stored then row else stored)
      else rows.find? (fun r => key r = k) := by
  induction rows with
  | nil => by_cases hk : key row = k <;> simp [putRow, hk]
  | cons stored rest ih =>
    obtain ⟨below, rest_asc⟩ := List.pairwise_cons.1 h
    unfold putRow
    split
    · rename_i hlt
      by_cases hk : key row = k
      · have hnone : (stored :: rest).find? (fun r => key r = k) = none := by
          refine List.find?_eq_none.2 fun s hs hsk => compare_lt_irrefl k ?_
          have hs' : compare (key row) (key s) = .lt := by
            rcases List.mem_cons.1 hs with rfl | hs
            · exact hlt
            · exact Std.TransCmp.lt_trans hlt (below s hs)
          rwa [hk, of_decide_eq_true hsk] at hs'
        rw [hnone]
        simp [hk]
      · simp [hk]
    · rename_i heq
      have hkey : key row = key stored := eq_of_compare_eq heq
      by_cases hk : key row = k
      · have hs : key stored = k := hkey ▸ hk
        by_cases hr : replaces row stored = true <;> simp [hk, hs, hr]
      · have hs : ¬ key stored = k := hkey ▸ hk
        by_cases hr : replaces row stored = true <;> simp [hk, hs, hr]
    · rename_i hgt
      by_cases hs : key stored = k
      · have hk : ¬ key row = k := fun hk => by
          simp [hk, hs] at hgt
        simp [hk, hs]
      · simp [hs, ih rest_asc]

theorem get?_put (replaces : ρ → ρ → Bool) (row : ρ) (t : Table key) (k : κ) :
    (t.put replaces row).get? k =
      if key row = k then
        match t.get? k with
        | none => some row
        | some stored => some (if replaces row stored then row else stored)
      else t.get? k :=
  find?_putRow t.ascending k

end Table
end ChainIndexer
