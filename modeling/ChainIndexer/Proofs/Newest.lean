import ChainIndexer.Proofs.Lookup

/-! Rows that are kept up to date. Of all rows offered for one place, the last one of greatest
height is kept, whatever the order in which they come. -/
namespace ChainIndexer

variable {ρ : Type} {height : ρ → Height}

/-- A row of greatest height that no row of its height comes after. -/
def IsNewest (height : ρ → Height) (rows : List ρ) (row : ρ) : Prop :=
  ∃ before after, rows = before ++ row :: after ∧
    (∀ r ∈ before, height r ≤ height row) ∧ ∀ r ∈ after, height r < height row

theorem IsNewest.mem {rows : List ρ} {row : ρ} (h : IsNewest height rows row) : row ∈ rows := by
  obtain ⟨before, after, rfl, _, _⟩ := h
  simp

theorem IsNewest.le {rows : List ρ} {row : ρ} (h : IsNewest height rows row) :
    ∀ r ∈ rows, height r ≤ height row := by
  obtain ⟨before, after, rfl, below, lower⟩ := h
  intro r hr
  rcases List.mem_append.1 hr with hr | hr
  · exact below r hr
  · rcases List.mem_cons.1 hr with rfl | hr
    · exact UInt64.le_rfl
    · exact UInt64.le_of_lt (lower r hr)

theorem IsNewest.unique {rows : List ρ} {a b : ρ} (ha : IsNewest height rows a)
    (hb : IsNewest height rows b) : a = b := by
  have ab := hb.le a ha.mem
  have ba := ha.le b hb.mem
  obtain ⟨before, after, rfl, _, lower⟩ := ha
  obtain ⟨before', after', split, _, lower'⟩ := hb
  rcases List.append_eq_append_iff.1 split with ⟨middle, _, tail⟩ | ⟨middle, _, tail⟩
  · cases middle with
    | nil => exact (List.cons.inj tail).1
    | cons first middle =>
        have later : b ∈ after := by
          rw [(List.cons.inj tail).2]
          simp
        exact absurd (lower b later) (UInt64.not_lt.2 ab)
  · cases middle with
    | nil => exact (List.cons.inj tail).1.symm
    | cons first middle =>
        have later : a ∈ after' := by
          rw [(List.cons.inj tail).2]
          simp
        exact absurd (lower' a later) (UInt64.not_lt.2 ba)

/-- What is kept of rows offered one after the other to an empty place. -/
def newest (height : ρ → Height) (rows : List ρ) : Option ρ :=
  rows.foldl (offer (upToDate height)) none

theorem latest_eq_offer (row : ρ) (stored : Option ρ) :
    latest height row stored = offer (upToDate height) stored row := by
  cases stored <;> rfl

theorem foldl_offer_upToDate (rows : List ρ) (stored : Option ρ) :
    rows.foldl (offer (upToDate height)) stored = newest height (stored.toList ++ rows) := by
  cases stored <;> rfl

theorem newest_append (rows others : List ρ) :
    newest height (rows ++ others) = newest height ((newest height rows).toList ++ others) := by
  rw [← foldl_offer_upToDate others (newest height rows)]
  exact List.foldl_append

theorem isNewest_foldl (height : ρ → Height) (rows : List ρ) (stored : ρ) :
    ∃ row, rows.foldl (offer (upToDate height)) (some stored) = some row ∧
      IsNewest height (stored :: rows) row := by
  induction rows generalizing stored with
  | nil => exact ⟨stored, rfl, [], [], rfl, by simp, by simp⟩
  | cons next rest ih =>
      by_cases le : height stored ≤ height next
      · obtain ⟨row, kept, newest⟩ := ih next
        refine ⟨row, by simpa [offer, upToDate, le] using kept, ?_⟩
        have top := newest.le next List.mem_cons_self
        obtain ⟨before, after, split, below, lower⟩ := newest
        refine ⟨stored :: before, after, by rw [split]; rfl, ?_, lower⟩
        intro r hr
        rcases List.mem_cons.1 hr with rfl | hr
        · exact UInt64.le_trans le top
        · exact below r hr
      · obtain ⟨row, kept, newest⟩ := ih stored
        refine ⟨row, by simpa [offer, upToDate, le] using kept, ?_⟩
        have drop : height next < height stored := UInt64.not_le.1 le
        have top := newest.le stored List.mem_cons_self
        obtain ⟨before, after, split, below, lower⟩ := newest
        cases before with
        | nil =>
            obtain ⟨rfl, rfl⟩ := List.cons.inj split
            refine ⟨[], next :: rest, rfl, by simp, ?_⟩
            intro r hr
            rcases List.mem_cons.1 hr with rfl | hr
            · exact drop
            · exact lower r hr
        | cons first before =>
            obtain ⟨rfl, rfl⟩ := List.cons.inj split
            refine ⟨stored :: next :: before, after, rfl, ?_, lower⟩
            intro r hr
            rcases List.mem_cons.1 hr with rfl | hr
            · exact top
            · rcases List.mem_cons.1 hr with rfl | hr
              · exact UInt64.le_of_lt (UInt64.lt_of_lt_of_le drop top)
              · exact below r (List.mem_cons_of_mem _ hr)

theorem newest_eq_none_iff {rows : List ρ} : newest height rows = none ↔ rows = [] := by
  cases rows with
  | nil => exact ⟨fun _ => rfl, fun _ => rfl⟩
  | cons row rest =>
      obtain ⟨kept, found, _⟩ := isNewest_foldl height rest row
      constructor
      · intro none
        exact absurd (found.symm.trans none) (by simp)
      · intro empty
        exact absurd empty (by simp)

theorem newest_eq_some_iff {rows : List ρ} {row : ρ} :
    newest height rows = some row ↔ IsNewest height rows row := by
  cases rows with
  | nil =>
      constructor
      · intro found
        cases found
      · intro h
        cases h.mem
  | cons first rest =>
      obtain ⟨kept, found, isNewest⟩ := isNewest_foldl height rest first
      have found : newest height (first :: rest) = some kept := found
      constructor
      · intro h
        rw [found] at h
        cases h
        exact isNewest
      · intro h
        rw [found, isNewest.unique h]

/-- Rows that come again later on do not matter. -/
theorem newest_redo {stored again rows : List ρ} (h : ∀ r ∈ again, r ∈ rows) :
    newest height (stored ++ again ++ rows) = newest height (stored ++ rows) := by
  cases found : newest height (stored ++ rows) with
  | none =>
      have empty := newest_eq_none_iff.1 found
      obtain ⟨rfl, rfl⟩ := List.append_eq_nil_iff.1 empty
      cases again with
      | nil => rfl
      | cons r _ => exact absurd (h r List.mem_cons_self) (by simp)
  | some row =>
      have isNewest := newest_eq_some_iff.1 found
      have top := isNewest.le
      rw [newest_eq_some_iff]
      obtain ⟨before, after, split, below, lower⟩ := isNewest
      rcases List.append_eq_append_iff.1 split with ⟨middle, rfl, rfl⟩ | ⟨middle, rfl, tail⟩
      · -- the row is among the later ones
        refine ⟨stored ++ again ++ middle, after, by simp, ?_, lower⟩
        intro r hr
        rcases List.mem_append.1 hr with hr | hr
        · rcases List.mem_append.1 hr with hr | hr
          · exact top r (List.mem_append_left _ hr)
          · exact top r (List.mem_append_right _ (h r hr))
        · exact below r (List.mem_append_right _ hr)
      · cases middle with
        | nil =>
            obtain rfl : row :: after = rows := tail
            refine ⟨before ++ again, after, by simp, ?_, lower⟩
            intro r hr
            rcases List.mem_append.1 hr with hr | hr
            · exact below r hr
            · exact top r (List.mem_append_right _ (h r hr))
        | cons first middle =>
            -- the row was stored, and all later ones are of lower height
            obtain ⟨rfl, rfl⟩ := List.cons.inj tail
            refine ⟨before, middle ++ again ++ rows, by simp, below, ?_⟩
            intro r hr
            refine lower r ?_
            rcases List.mem_append.1 hr with hr | hr
            · rcases List.mem_append.1 hr with hr | hr
              · exact List.mem_append_left _ hr
              · exact List.mem_append_right _ (h r hr)
            · exact List.mem_append_right _ hr

/-- Of rows of one height the last is kept, unless a higher one was stored. -/
theorem eq_or_getLast?_of_newest {stored : Option ρ} {batch : List ρ}
    (level : ∀ r ∈ batch, ∀ r' ∈ batch, height r = height r') {row : ρ}
    (h : newest height (stored.toList ++ batch) = some row) :
    stored = some row ∨ batch.getLast? = some row := by
  rcases List.eq_nil_or_concat batch with rfl | ⟨init, last, rfl⟩
  · left
    rw [List.append_nil] at h
    cases stored with
    | none => cases h
    | some r => exact h
  · rw [List.concat_eq_append] at level h ⊢
    have flat : ∀ r ∈ init ++ [last], height r = height last :=
      fun r member => level r member last (by simp)
    by_cases higher : ∃ r, stored = some r ∧ height last < height r
    · obtain ⟨r, rfl, above⟩ := higher
      have top : IsNewest height ([r] ++ (init ++ [last])) r := by
        refine ⟨[], init ++ [last], rfl, by simp, ?_⟩
        intro r' member
        rw [flat r' member]
        exact above
      exact .inl (congrArg some (top.unique (newest_eq_some_iff.1 h)))
    · have top : IsNewest height (stored.toList ++ (init ++ [last])) last := by
        refine ⟨stored.toList ++ init, [], by simp, ?_, by simp⟩
        intro r member
        rcases List.mem_append.1 member with member | member
        · exact UInt64.not_lt.1 fun above => higher ⟨r, Option.mem_toList.1 member, above⟩
        · rw [flat r (List.mem_append_left _ member)]
          exact UInt64.le_rfl
      rw [(newest_eq_some_iff.1 h).unique top]
      simp

/-- Where rows come in batches of one height each, the last row of some batch is kept. -/
theorem exists_getLast?_of_newest {ι : Type} {batch : ι → List ρ} {items : List ι}
    (stored : Option ρ)
    (level : ∀ i ∈ items, ∀ r ∈ batch i, ∀ r' ∈ batch i, height r = height r') {row : ρ}
    (h : newest height (stored.toList ++ items.flatMap batch) = some row) :
    stored = some row ∨ ∃ i ∈ items, (batch i).getLast? = some row := by
  induction items generalizing stored with
  | nil =>
      left
      rw [List.flatMap_nil, List.append_nil] at h
      cases stored with
      | none => cases h
      | some r => exact h
  | cons i items ih =>
      rw [List.flatMap_cons, ← List.append_assoc, newest_append] at h
      rcases ih _ (fun j member => level j (List.mem_cons_of_mem _ member)) h with kept | found
      · rcases eq_or_getLast?_of_newest (level i List.mem_cons_self) kept with same | last
        · exact .inl same
        · exact .inr ⟨i, List.mem_cons_self, last⟩
      · obtain ⟨j, member, last⟩ := found
        exact .inr ⟨j, List.mem_cons_of_mem _ member, last⟩

/-- If no two batches have one height, it does not matter in which order the batches come, nor how
often. -/
theorem newest_flatMap_congr {ι : Type} {batch : ι → List ρ} {items others : List ι}
    (same : ∀ i, batch i ≠ [] → (i ∈ items ↔ i ∈ others))
    (level : ∀ i ∈ items, ∀ r ∈ batch i, ∀ r' ∈ batch i, height r = height r')
    (apart : ∀ i ∈ items, ∀ j ∈ items, ∀ r ∈ batch i, ∀ r' ∈ batch j,
      height r = height r' → i = j) :
    newest height (items.flatMap batch) = newest height (others.flatMap batch) := by
  have back {r : ρ} {i : ι} (member : r ∈ batch i) : i ∈ items ↔ i ∈ others :=
    same i (List.ne_nil_of_mem member)
  have rows : ∀ r, r ∈ items.flatMap batch ↔ r ∈ others.flatMap batch := by
    intro r
    rw [List.mem_flatMap, List.mem_flatMap]
    constructor
    · rintro ⟨i, listed, member⟩
      exact ⟨i, (back member).1 listed, member⟩
    · rintro ⟨i, listed, member⟩
      exact ⟨i, (back member).2 listed, member⟩
  cases one : newest height (items.flatMap batch) with
  | none =>
      have empty : others.flatMap batch = [] := by
        rw [List.eq_nil_iff_forall_not_mem]
        intro r member
        have listed := (rows r).2 member
        rw [newest_eq_none_iff.1 one] at listed
        cases listed
      exact (newest_eq_none_iff.2 empty).symm
  | some r =>
      have isNewest := newest_eq_some_iff.1 one
      cases other : newest height (others.flatMap batch) with
      | none =>
          have listed := (rows r).1 isNewest.mem
          rw [newest_eq_none_iff.1 other] at listed
          cases listed
      | some r' =>
          have isNewest' := newest_eq_some_iff.1 other
          have equal : height r = height r' := UInt64.le_antisymm
            (isNewest'.le r ((rows r).1 isNewest.mem)) (isNewest.le r' ((rows r').2 isNewest'.mem))
          have level' : ∀ i ∈ others, ∀ r ∈ batch i, ∀ r' ∈ batch i, height r = height r' :=
            fun i listed r member => level i ((back member).2 listed) r member
          obtain none | ⟨i, listed, last⟩ := exists_getLast?_of_newest none level one
          · cases none
          obtain none | ⟨j, listed', last'⟩ := exists_getLast?_of_newest none level' other
          · cases none
          have member := List.mem_of_getLast? last
          have member' := List.mem_of_getLast? last'
          obtain rfl := apart i listed j ((back member').2 listed') r member r' member' equal
          exact last.symm.trans last'

end ChainIndexer
