import ChainIndexer.Proofs.FirstSeen
import ChainIndexer.Proofs.Text
import ChainIndexer.Transaction

/-! Accounts that a value mentions. A mention has a place in the value: which member to go into,
level by level. A walk through the document that goes into each value before what comes after it
meets the places in the order of words. -/
namespace ChainIndexer.Json

/-- A value in another, with its key if it is a field. -/
structure Member where
  key : Option String
  value : Json

/-- What stands in an array or an object, in the order of the document. -/
def members : Json → List Member
  | .array items => items.map (Member.mk none)
  | .object fields => fields.map fun f => ⟨some f.1, f.2⟩
  | _ => []

def Member.at? : Member → List Nat → Option Member
  | m, [] => some m
  | m, i :: place => m.value.members[i]?.bind (·.at? place)

def at? (v : Json) (place : List Nat) : Option Member := (Member.mk none v).at? place

/-- The text under a key is an account. -/
structure NamesAccount (key text : String) : Prop where
  ends : "address".toList <:+ key.toList
  nonempty : text ≠ ""
  no_operator : ¬ "valoper".toList <:+: text.toList

/-- An account is mentioned at a place: as the text of a field that names it. -/
def Mentions (v : Json) (place : List Nat) (account : String) : Prop :=
  ∃ key, v.at? place = some ⟨some key, .text account⟩ ∧ NamesAccount key account

theorem isAccount_iff {key text : String} :
    isAccount key text = true ↔ NamesAccount key text := by
  unfold isAccount Text.hasEnd Text.hasPart
  rw [Bool.and_eq_true, Bool.and_eq_true, decide_eq_true_iff, bne_iff_ne, Bool.not_eq_true',
    ← Bool.not_eq_true, Text.standsIn_iff]
  exact ⟨fun h => ⟨h.1.1, h.1.2, h.2⟩, fun h => ⟨⟨h.ends, h.nonempty⟩, h.no_operator⟩⟩

/-! The accounts of a value are those of its members. -/

namespace Member

def accounts : Member → List String
  | ⟨some key, .text s⟩ => if isAccount key s then [s] else []
  | ⟨_, v⟩ => v.accounts

theorem accounts_item (v : Json) : accounts ⟨none, v⟩ = v.accounts := rfl

theorem accounts_of_not_text {m : Member} (nested : ∀ s, m.value ≠ .text s) :
    m.accounts = m.value.accounts := by
  obtain ⟨key?, v⟩ := m
  cases key? with
  | none => rfl
  | some key =>
      cases v with
      | text s => exact absurd rfl (nested s)
      | _ => rfl

end Member

theorem itemAccounts_eq (items : List Json) :
    itemAccounts items = (array items).members.flatMap Member.accounts := by
  induction items with
  | nil => rfl
  | cons v items ih => exact congrArg (v.accounts ++ ·) ih

theorem fieldAccounts_eq (fields : List (String × Json)) :
    fieldAccounts fields = (object fields).members.flatMap Member.accounts := by
  induction fields with
  | nil => rfl
  | cons f fields ih =>
      obtain ⟨key, v⟩ := f
      change _ = Member.accounts ⟨some key, v⟩ ++ (object fields).members.flatMap Member.accounts
      rw [← ih]
      cases v with
      | text s =>
          rw [fieldAccounts, Member.accounts]
          split <;> rfl
      | _ => rfl

theorem accounts_eq (v : Json) : v.accounts = v.members.flatMap Member.accounts := by
  cases v with
  | array items => exact itemAccounts_eq items
  | object fields => exact fieldAccounts_eq fields
  | _ => rfl

/-! Walks. -/

/-- A walk through a member: what accounts it mentions, with their places. -/
structure Member.Walk (m : Member) (found : List (List Nat × String)) : Prop where
  accounts : found.map Prod.snd = m.accounts
  ascending : found.Pairwise fun one other => one.1 < other.1
  mem_iff : ∀ place account, (place, account) ∈ found ↔
    ∃ key, m.at? place = some ⟨some key, .text account⟩ ∧ NamesAccount key account

namespace Member

variable {found : Member → List (List Nat × String)} {ms : List Member}

def joined (found : Member → List (List Nat × String)) (ms : List Member) :
    List (List Nat × String) :=
  ms.zipIdx.flatMap fun (m, i) => (found m).map fun (place, account) => (i :: place, account)

theorem mem_joined {place : List Nat} {account : String} : (place, account) ∈ joined found ms ↔
    ∃ i m inner, place = i :: inner ∧ ms[i]? = some m ∧ (inner, account) ∈ found m := by
  simp only [joined, List.mem_flatMap, List.mem_map, Prod.exists, List.mk_mem_zipIdx_iff_getElem?,
    Prod.mk.injEq]
  constructor
  · rintro ⟨m, i, there, inner, _, listed, rfl, rfl⟩
    exact ⟨i, m, inner, rfl, there, listed⟩
  · rintro ⟨i, m, inner, rfl, there, listed⟩
    exact ⟨m, i, there, inner, account, listed, rfl, rfl⟩

theorem map_snd_joined (each : ∀ m ∈ ms, (found m).map Prod.snd = m.accounts) :
    (joined found ms).map Prod.snd = ms.flatMap accounts := by
  unfold joined
  generalize 0 = first
  induction ms generalizing first with
  | nil => rfl
  | cons m ms ih =>
      rw [List.zipIdx_cons, List.flatMap_cons, List.flatMap_cons, List.map_append, List.map_map,
        ih (fun m' listed => each m' (List.mem_cons_of_mem _ listed))]
      exact congrArg (· ++ _) (each m List.mem_cons_self)

theorem ascending_joined (each : ∀ m ∈ ms, (found m).Pairwise fun one other => one.1 < other.1) :
    (joined found ms).Pairwise fun one other => one.1 < other.1 := by
  refine List.pairwise_flatMap.2 ⟨?_, ?_⟩
  · rintro ⟨m, i⟩ listed
    refine List.pairwise_map.2 ((each m (List.fst_mem_of_mem_zipIdx listed)).imp ?_)
    intro one other lt
    exact List.cons_lt_cons_self.2 lt
  · have positions : ms.zipIdx.Pairwise fun p q => p.2 < q.2 := by
      rw [← List.pairwise_map, List.zipIdx_map_snd]
      exact List.pairwise_lt_range'
    refine positions.imp ?_
    rintro ⟨m, i⟩ ⟨m', i'⟩ lt one listed other listed'
    obtain ⟨_, _, rfl⟩ := List.mem_map.1 listed
    obtain ⟨_, _, rfl⟩ := List.mem_map.1 listed'
    exact List.Lex.rel lt

theorem mem_accounts_text {key? : Option String} {text account : String} :
    account ∈ accounts ⟨key?, .text text⟩ ↔
      ∃ key, Member.mk key? (.text text) = ⟨some key, .text account⟩ ∧
        NamesAccount key account := by
  cases key? with
  | none => exact ⟨nofun, nofun⟩
  | some key =>
      rw [accounts]
      constructor
      · intro listed
        split at listed
        · rename_i named
          obtain rfl := List.mem_singleton.1 listed
          exact ⟨key, rfl, isAccount_iff.1 named⟩
        · cases listed
      · rintro ⟨_, same, named⟩
        cases same
        rw [if_pos (isAccount_iff.2 named)]
        exact List.mem_singleton_self _

theorem walk_text (key? : Option String) (text : String) :
    Walk ⟨key?, .text text⟩ ((accounts ⟨key?, .text text⟩).map fun account => ([], account)) where
  accounts := by
    rw [List.map_map]
    exact List.map_id _
  ascending := by
    cases key? with
    | none => exact .nil
    | some key =>
        rw [accounts]
        split
        · exact List.pairwise_singleton _ _
        · exact .nil
  mem_iff place account := by
    rw [List.mem_map]
    constructor
    · rintro ⟨_, listed, same⟩
      cases same
      obtain ⟨key, stands, names⟩ := mem_accounts_text.1 listed
      exact ⟨key, congrArg some stands, names⟩
    · rintro ⟨key, stands, names⟩
      cases place with
      | nil => exact ⟨account, mem_accounts_text.2 ⟨key, Option.some.inj stands, names⟩, rfl⟩
      | cons i place => cases stands

theorem walk_of_members {m : Member} (nested : ∀ s, m.value ≠ .text s)
    (each : ∀ m' ∈ m.value.members, m'.Walk (found m')) :
    m.Walk (joined found m.value.members) where
  accounts := by
    rw [map_snd_joined fun m' listed => (each m' listed).accounts, accounts_of_not_text nested,
      accounts_eq]
  ascending := ascending_joined fun m' listed => (each m' listed).ascending
  mem_iff place account := by
    rw [mem_joined]
    constructor
    · rintro ⟨i, m', inner, rfl, there, listed⟩
      obtain ⟨key, stands, names⟩ := ((each m' (List.mem_of_getElem? there)).mem_iff _ _).1 listed
      refine ⟨key, ?_, names⟩
      rw [at?, there]
      exact stands
    · rintro ⟨key, stands, names⟩
      cases place with
      | nil => exact absurd (congrArg value (Option.some.inj stands)) (nested account)
      | cons i inner =>
          obtain ⟨m', there, stands⟩ := Option.bind_eq_some_iff.1 stands
          refine ⟨i, m', inner, rfl, there, ?_⟩
          exact ((each m' (List.mem_of_getElem? there)).mem_iff _ _).2 ⟨key, stands, names⟩

theorem sizeOf_lt_of_mem_members {v : Json} {m : Member} (listed : m ∈ v.members) :
    sizeOf m.value < sizeOf v := by
  cases v with
  | array items =>
      obtain ⟨item, there, rfl⟩ := List.mem_map.1 listed
      have := List.sizeOf_lt_of_mem there
      simp only [array.sizeOf_spec]
      omega
  | object fields =>
      obtain ⟨⟨key, item⟩, there, rfl⟩ := List.mem_map.1 listed
      have := List.sizeOf_lt_of_mem there
      simp only [object.sizeOf_spec, Prod.mk.sizeOf_spec] at this ⊢
      omega
  | _ => cases listed

theorem exists_walk (m : Member) : ∃ found, m.Walk found := by
  by_cases text : ∃ s, m.value = .text s
  · obtain ⟨key?, v⟩ := m
    obtain ⟨s, rfl⟩ := text
    exact ⟨_, walk_text key? s⟩
  · have each : ∀ m', ∃ found, m' ∈ m.value.members → m'.Walk found := by
      intro m'
      by_cases listed : m' ∈ m.value.members
      · obtain ⟨found, walk⟩ := exists_walk m'
        exact ⟨found, fun _ => walk⟩
      · exact ⟨[], fun listed' => absurd listed' listed⟩
    obtain ⟨found, walks⟩ := Classical.skolem.1 each
    exact ⟨_, walk_of_members (fun s same => text ⟨s, same⟩) walks⟩
termination_by sizeOf m.value
decreasing_by exact sizeOf_lt_of_mem_members listed

end Member

theorem at?_append (m : Member) (place inner : List Nat) :
    m.at? (place ++ inner) = (m.at? place).bind (·.at? inner) := by
  induction place generalizing m with
  | nil => rfl
  | cons i place ih =>
      rw [List.cons_append, Member.at?, Member.at?]
      cases m.value.members[i]? with
      | none => rfl
      | some m' => exact ih m'

theorem mem_involvedAccounts {v : Json} {account : String} :
    account ∈ v.involvedAccounts ↔ ∃ place, v.Mentions place account := by
  obtain ⟨found, walk⟩ := Member.exists_walk ⟨none, v⟩
  rw [involvedAccounts, (firstOrder_firstSeen _).mem_iff, ← Member.accounts_item, ← walk.accounts,
    List.mem_map]
  constructor
  · rintro ⟨⟨place, _⟩, listed, rfl⟩
    exact ⟨place, (walk.mem_iff _ _).1 listed⟩
  · rintro ⟨place, mentioned⟩
    exact ⟨(place, account), (walk.mem_iff _ _).2 mentioned, rfl⟩

/-- What comes before in a walk is mentioned at an earlier place. -/
theorem Member.Walk.lt_of_comesBefore {m : Member} {found : List (List Nat × String)}
    (walk : m.Walk found) {one other : String} (h : ComesBefore (found.map Prod.snd) one other) :
    ∃ place, (place, one) ∈ found ∧ ∀ later, (later, other) ∈ found → place < later := by
  obtain ⟨i, first, before⟩ := h
  rw [List.getElem?_map] at first
  obtain ⟨⟨place, _⟩, there, rfl⟩ := Option.map_eq_some_iff.1 first
  refine ⟨place, List.mem_of_getElem? there, ?_⟩
  intro later listed
  obtain ⟨j, there'⟩ := List.mem_iff_getElem?.1 listed
  have lt : i < j := before j (by rw [List.getElem?_map, there']; rfl)
  obtain ⟨inside, at_i⟩ := List.getElem?_eq_some_iff.1 there
  obtain ⟨inside', at_j⟩ := List.getElem?_eq_some_iff.1 there'
  have ascending := List.pairwise_iff_getElem.1 walk.ascending i j inside inside' lt
  rw [at_i, at_j] at ascending
  exact ascending

/-- What is mentioned in a value is mentioned wherever the value stands. -/
theorem Mentions.inside {v inner : Json} {place deeper : List Nat} {key? : Option String}
    {account : String} (stands : v.at? place = some ⟨key?, inner⟩)
    (mentioned : inner.Mentions deeper account) : v.Mentions (place ++ deeper) account := by
  obtain ⟨key, there, names⟩ := mentioned
  refine ⟨key, ?_, names⟩
  cases deeper with
  | nil => cases there
  | cons i deeper =>
      have stands : Member.at? ⟨none, v⟩ place = some ⟨key?, inner⟩ := stands
      rw [at?, at?_append, stands]
      exact there

theorem not_mentions_item {v : Json} {place : List Nat} {key? : Option String} {items : List Json}
    (stands : v.at? place = some ⟨key?, .array items⟩) {i : Nat} {item : Json}
    (there : items[i]? = some item) (account : String) : ¬ v.Mentions (place ++ [i]) account := by
  rintro ⟨key, mentioned, _⟩
  have stands : Member.at? ⟨none, v⟩ place = some ⟨key?, .array items⟩ := stands
  rw [at?, at?_append, stands, Option.bind_some, Member.at?, members, List.getElem?_map,
    there] at mentioned
  cases mentioned

/-- The accounts that a value involves are those that it mentions, each once, in the order of their
first mentions. Whatever stands under a key is searched, and a text that stands in an array is
no mention. -/
theorem involved_accounts_mentioned (v : Json) :
    v.involvedAccounts.Nodup ∧
    (∀ account, account ∈ v.involvedAccounts ↔ ∃ place, v.Mentions place account) ∧
    v.involvedAccounts.Pairwise (fun one other => ∃ place, v.Mentions place one ∧
      ∀ later, v.Mentions later other → place < later) ∧
    (∀ place key inner, v.at? place = some ⟨some key, inner⟩ →
      inner.involvedAccounts ⊆ v.involvedAccounts) ∧
    ∀ place key? items, v.at? place = some ⟨key?, .array items⟩ →
      ∀ i text, items[i]? = some (.text text) → ∀ account, ¬ v.Mentions (place ++ [i]) account := by
  obtain ⟨found, walk⟩ := Member.exists_walk ⟨none, v⟩
  have once : FirstOrder (found.map Prod.snd) v.involvedAccounts := by
    rw [walk.accounts]
    exact firstOrder_firstSeen v.accounts
  refine ⟨once.nodup, fun _ => mem_involvedAccounts, ?_, ?_, ?_⟩
  · refine once.ordered.imp ?_
    intro one other before
    obtain ⟨place, listed, first⟩ := walk.lt_of_comesBefore before
    refine ⟨place, (walk.mem_iff _ _).1 listed, ?_⟩
    intro later mentioned
    exact first later ((walk.mem_iff _ _).2 mentioned)
  · intro place key inner stands account involved
    obtain ⟨deeper, mentioned⟩ := mem_involvedAccounts.1 involved
    exact mem_involvedAccounts.2 ⟨_, mentioned.inside stands⟩
  · intro place key? items stands i text there
    exact not_mentions_item stands there

/-- Neither the text in the array nor the address of the operator is an account. -/
example : involvedAccounts (.object
    [("to_address", .array [.text "carol", .object [("address", .text "bob")]]),
      ("from_address", .text "alice"), ("validator_address", .text "onevaloper1"),
      ("address", .text "bob")]) = ["bob", "alice"] := by decide +kernel

end ChainIndexer.Json
