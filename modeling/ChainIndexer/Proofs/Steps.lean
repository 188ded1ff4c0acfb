/-! Steps that may fail: what has come of them all has come of each. -/
namespace ChainIndexer

variable {α β ε : Type}

theorem ok_bind (a : α) (f : α → Except ε β) : (.ok a >>= f) = f a := rfl

theorem exists_eq_ok {e : Except ε α} (h : e.isOk = true) : ∃ value, e = .ok value := by
  cases e with
  | error f => cases h
  | ok a => exact ⟨a, rfl⟩

theorem eq_ok_of_toOption {e : Except ε α} {value : α} (h : e.toOption = some value) :
    e = .ok value := by
  cases e with
  | error f => cases h
  | ok a => exact congrArg Except.ok (Option.some.inj h)

theorem bind_eq_ok {e : Except ε α} {f : α → Except ε β} {value : β}
    (h : (e >>= f) = .ok value) : ∃ a, e = .ok a ∧ f a = .ok value := by
  cases e with
  | error f => cases h
  | ok a => exact ⟨a, rfl, h⟩

theorem bind_eq_ok_iff {e : Except ε α} {f : α → Except ε β} {value : β} :
    (e >>= f) = .ok value ↔ ∃ a, e = .ok a ∧ f a = .ok value := by
  refine ⟨bind_eq_ok, ?_⟩
  rintro ⟨a, rfl, made⟩
  exact made

@[simp]
theorem mapError_ok {ε' : Type} (f : ε → ε') (a : α) :
    (.ok a : Except ε α).mapError f = .ok a := rfl

@[simp]
theorem mapError_error {ε' : Type} (f : ε → ε') (e : ε) :
    (.error e : Except ε α).mapError f = .error (f e) := rfl

theorem mapError_eq_ok_iff {ε' : Type} {f : ε → ε'} {e : Except ε α} {value : α} :
    e.mapError f = .ok value ↔ e = .ok value := by
  cases e <;> simp

theorem toOption_mapError {ε' : Type} (f : ε → ε') (e : Except ε α) :
    (e.mapError f).toOption = e.toOption := by
  cases e <;> rfl

variable {f : α → Except ε β} {items : List α} {values : List β}

/-- What can be told of an item and of its value alike, can be told of all of them. -/
theorem map_eq_map_of_mapM_eq_ok {γ : Type} {g : α → γ} {g' : β → γ}
    (made : items.mapM f = .ok values)
    (agree : ∀ item value, f item = .ok value → g item = g' value) :
    items.map g = values.map g' := by
  induction items generalizing values with
  | nil =>
      cases made
      rfl
  | cons item items ih =>
      rw [List.mapM_cons] at made
      obtain ⟨value, first, made⟩ := bind_eq_ok made
      obtain ⟨rest, others, made⟩ := bind_eq_ok made
      cases made
      rw [List.map_cons, List.map_cons, agree item value first, ih others]

theorem mapM_eq_ok_iff : items.mapM f = .ok values ↔ items.map f = values.map .ok := by
  refine ⟨fun made => map_eq_map_of_mapM_eq_ok made fun _ _ each => each, fun same => ?_⟩
  induction items generalizing values with
  | nil =>
      cases values with
      | nil => rfl
      | cons => cases same
  | cons item items ih =>
      cases values with
      | nil => cases same
      | cons value values =>
          obtain ⟨first, rest⟩ := List.cons.inj same
          rw [List.mapM_cons, first, ih rest]
          rfl

theorem exists_mem_of_mapM_eq_ok (h : items.mapM f = .ok values) :
    ∀ item ∈ items, ∃ value ∈ values, f item = .ok value := by
  have same : items.map f = values.map .ok := map_eq_map_of_mapM_eq_ok h fun _ _ made => made
  intro item member
  have listed := List.mem_map_of_mem (f := f) member
  rw [same, List.mem_map] at listed
  obtain ⟨value, member, made⟩ := listed
  exact ⟨value, member, made.symm⟩

theorem mem_of_mapM_eq_ok (h : items.mapM f = .ok values) :
    ∀ value ∈ values, ∃ item ∈ items, f item = .ok value := by
  have same : items.map f = values.map .ok := map_eq_map_of_mapM_eq_ok h fun _ _ made => made
  intro value member
  have listed := List.mem_map_of_mem (f := (.ok : β → Except ε β)) member
  rw [← same, List.mem_map] at listed
  exact listed

theorem exists_mem_of_mapM_eq_error {e : ε} (h : items.mapM f = .error e) :
    ∃ item ∈ items, f item = .error e := by
  induction items with
  | nil => cases h
  | cons first items ih =>
      rw [List.mapM_cons] at h
      cases made : f first with
      | error e' =>
          rw [made] at h
          cases h
          exact ⟨first, List.mem_cons_self, made⟩
      | ok value =>
          rw [made] at h
          cases others : items.mapM f with
          | ok rest =>
              rw [others] at h
              cases h
          | error e' =>
              rw [others] at h
              cases h
              obtain ⟨item, member, failed⟩ := ih others
              exact ⟨item, List.mem_cons_of_mem _ member, failed⟩

/-- All steps come to something if each does. -/
theorem exists_mapM_eq_ok_iff :
    (∃ values, items.mapM f = .ok values) ↔ ∀ item ∈ items, ∃ value, f item = .ok value := by
  constructor
  · rintro ⟨values, made⟩ item member
    obtain ⟨value, _, each⟩ := exists_mem_of_mapM_eq_ok made item member
    exact ⟨value, each⟩
  · intro each
    cases made : items.mapM f with
    | ok values => exact ⟨values, rfl⟩
    | error e =>
        obtain ⟨item, member, failed⟩ := exists_mem_of_mapM_eq_error made
        obtain ⟨value, made⟩ := each item member
        cases failed.symm.trans made

theorem mapM_filter_eq_ok {p : α → Bool} {q : β → Bool} (made : items.mapM f = .ok values)
    (agree : ∀ item value, f item = .ok value → p item = q value) :
    (items.filter p).mapM f = .ok (values.filter q) := by
  induction items generalizing values with
  | nil =>
      cases made
      rfl
  | cons item items ih =>
      rw [List.mapM_cons] at made
      obtain ⟨value, first, made⟩ := bind_eq_ok made
      obtain ⟨rest, others, made⟩ := bind_eq_ok made
      cases made
      rw [List.filter_cons, List.filter_cons, agree item value first]
      split
      · rw [List.mapM_cons, first, ih others]
        rfl
      · exact ih others

end ChainIndexer
