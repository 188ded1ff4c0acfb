import ChainIndexer.Module.Staking
import ChainIndexer.Proofs.Depth
import ChainIndexer.Proofs.Steps

/-! The staking state of a genesis document. It is a record with one field, a list of validators
that may be left out. It can be decoded if and only if each entry of the list can be decoded by
itself, and the validators are then those of the entries. -/
namespace ChainIndexer

open Json (Decoder Record)

namespace Json

def valuesOf (name : String) : List (String × Json) → List Json
  | [] => []
  | (key, v) :: fields => if key = name then v :: valuesOf name fields else valuesOf name fields

/-- Once the name has come, it must not come again. -/
theorem ofFields_again (name : String) (t : Tree) (fields : List (String × Json)) :
    Given.ofFields [name] [(name, t)] true (toTreeFields fields) =
      ([(name, t)], match valuesOf name fields with
        | [] => none
        | _ :: _ => some ("duplicate field " ++ name)) := by
  induction fields with
  | nil => rfl
  | cons field fields ih =>
      obtain ⟨key, v⟩ := field
      unfold toTreeFields Given.ofFields valuesOf
      by_cases same : key = name
      · subst same
        simp
      · rw [if_neg (by simpa using same), if_neg same, ih]

/-- What a record with one field is given, if these are the values for the field. -/
def Given.single (name : String) (named : Bool) (depth : Nat) (trouble : String) :
    List Json → Given
  | [] => ⟨named, depth, [], none⟩
  | [v] => ⟨named, depth, [(name, v.toTree)], none⟩
  | v :: _ :: _ => ⟨named, depth, [(name, v.toTree)], some trouble⟩

theorem ofFields_single (name : String) (fields : List (String × Json)) (depth : Nat) :
    (⟨true, depth, (Given.ofFields [name] [] true (toTreeFields fields)).1,
      (Given.ofFields [name] [] true (toTreeFields fields)).2⟩ : Given) =
        Given.single name true depth ("duplicate field " ++ name) (valuesOf name fields) := by
  induction fields with
  | nil => rfl
  | cons field fields ih =>
      obtain ⟨key, v⟩ := field
      unfold toTreeFields Given.ofFields valuesOf
      by_cases same : key = name
      · subst same
        simp only [if_pos (List.mem_singleton_self key), List.any_nil, List.nil_append,
          Bool.false_eq_true, if_false, ofFields_again]
        cases valuesOf key fields <;> rfl
      · simp only [List.mem_singleton, if_neg same, ih]

theorem ofItems_single (name : String) (items : List Json) (depth : Nat) :
    (⟨false, depth, (Given.ofItems [name] (toTrees items) true).1,
      (Given.ofItems [name] (toTrees items) true).2⟩ : Given) =
        Given.single name false depth "more elements than fields" items := by
  rcases items with _ | ⟨v, _ | ⟨w, items⟩⟩
  · rfl
  · rfl
  · simp [Given.ofItems, Given.single, toTrees]

variable {α : Type} {name : String} {item : Decoder α} {default a : α}

/-- A record with one field is read from the value for this field, and is the default if there is
none. More than one value are too many. -/
theorem judge_single_iff {named : Bool} {depth : Nat} {trouble : String} {values : List Json} :
    (Record.withDefault name item default).judge (Given.single name named depth trouble values) =
        .ok a ↔
      values = [] ∧ default = a ∨
        ∃ value, values = [value] ∧ item depth value.toTree = .ok a := by
  rcases values with _ | ⟨v, more⟩
  · change Except.ok default = .ok a ↔ _
    simp
  · have found (trouble : Option String) :
        Given.find? ⟨named, depth, [(name, v.toTree)], trouble⟩ name = some (0, v.toTree) := by
      simp [Given.find?]
    rcases more with _ | ⟨w, more⟩ <;>
      simp only [Given.single, Record.judge, Record.withDefault, Record.field, found] <;>
      cases read : item depth v.toTree <;> simp [read]

/-- The values that a record with one field has for it, and how deep they are. Instead of an object
it may be an array. -/
def singleField? (name : String) : Json → Option (List Json × Nat)
  | .object fields => some (valuesOf name fields, nestingFields fields)
  | .array items => some (items, nestingItems items)
  | _ => none

theorem mem_of_mem_valuesOf {v : Json} {fields : List (String × Json)}
    (member : v ∈ valuesOf name fields) : (name, v) ∈ fields := by
  induction fields with
  | nil => cases member
  | cons field fields ih =>
      obtain ⟨key, first⟩ := field
      unfold valuesOf at member
      split at member
      · next same =>
          rcases List.mem_cons.1 member with rfl | later
          · exact same ▸ List.mem_cons_self
          · exact List.mem_cons_of_mem _ (ih later)
      · exact List.mem_cons_of_mem _ (ih member)

theorem nesting_le_of_singleField? {v value : Json} {values : List Json} {depth : Nat}
    (given : singleField? name v = some (values, depth)) (member : value ∈ values) :
    value.nesting ≤ depth := by
  cases v with
  | object fields =>
      cases given
      exact nesting_le_nestingFields (mem_of_mem_valuesOf member)
  | array items =>
      cases given
      exact nesting_le_nestingItems member
  | _ => cases given

theorem single_withDefault_iff {v : Json} :
    (Record.withDefault name item default).decoder v.nesting v.toTree = .ok a ↔
      ∃ values depth, singleField? name v = some (values, depth) ∧
        (values = [] ∧ default = a ∨
          ∃ value, values = [value] ∧ item depth value.toTree = .ok a) := by
  cases v with
  | object fields =>
      rw [nesting, Record.decoder_object]
      change Record.judge _ ⟨true, _, (Given.ofFields [name] [] true _).1,
        (Given.ofFields [name] [] true _).2⟩ = _ ↔ _
      rw [ofFields_single, judge_single_iff]
      simp only [singleField?, Option.some.injEq, Prod.mk.injEq, and_assoc, exists_eq_left',
        exists_and_left]
  | array items =>
      rw [nesting, Record.decoder_array]
      change Record.judge _ ⟨false, _, (Given.ofItems [name] _ true).1,
        (Given.ofItems [name] _ true).2⟩ = _ ↔ _
      rw [ofItems_single, judge_single_iff]
      simp only [singleField?, Option.some.injEq, Prod.mk.injEq, and_assoc, exists_eq_left',
        exists_and_left]
  | _ =>
      constructor
      · intro read
        cases read
      · rintro ⟨_, _, given, _⟩
        cases given

end Json

namespace Staking

open Json (valuesOf singleField? nesting nestingItems)

/-- The one list that stands for a field, nothing if the field is left out. -/
def soleList? : List Json → Option (List Json)
  | [] => some []
  | [.array entries] => some entries
  | _ => none

def entries? : Json → Option (List Json)
  | .object fields => soleList? (valuesOf "validators" fields)
  | .array items => soleList? items
  | _ => none

theorem entries?_eq_bind (state : Json) :
    entries? state = (singleField? "validators" state).bind fun given => soleList? given.1 := by
  cases state <;> rfl

theorem level_decoder : GenesisValidator.decoder.Level := by
  have commission : commissionDecoder.Level :=
    Decoder.level_single (Decoder.level_single Decoder.level_text)
  exact Record.level_decoder (Record.level_seq
    (Record.level_seq (Record.level_map (Record.level_required Decoder.level_text))
      (Record.level_required commission))
    (Record.level_withDefault Decoder.level_text))

theorem map_eq_ok_congr {α β ε ε' : Type} {f : α → Except ε β} {g : α → Except ε' β}
    (alike : ∀ item value, f item = .ok value ↔ g item = .ok value) {items : List α}
    {values : List β} : items.map f = values.map .ok ↔ items.map g = values.map .ok := by
  induction items generalizing values with
  | nil => cases values <;> simp
  | cons item items ih => cases values <;> simp [alike, ih]

theorem decodeValue_eq_ok_iff {α : Type} {item : Decoder α} {v : Json} {a : α} :
    Decoder.decodeValue item v = .ok a ↔ item v.nesting v.toTree = .ok a :=
  mapError_eq_ok_iff

theorem list_eq_ok_iff {value : Json} {depth : Nat} (room : value.nesting ≤ depth)
    {validators : List GenesisValidator} :
    Decoder.list GenesisValidator.decoder depth value.toTree = .ok validators ↔
      ∃ entries, value = .array entries ∧
        entries.map (Decoder.decodeValue GenesisValidator.decoder) = validators.map .ok := by
  cases value with
  | array entries =>
      cases depth with
      | zero => exact absurd room (Nat.not_succ_le_zero _)
      | succ depth =>
          rw [Decoder.list_array level_decoder entries (Nat.le_of_succ_le_succ room),
            mapM_eq_ok_iff, map_eq_ok_congr fun _ _ => decodeValue_eq_ok_iff.symm]
          simp only [Json.array.injEq, exists_eq_left']
  | _ =>
      constructor
      · intro read
        cases depth <;> cases read
      · rintro ⟨_, given, _⟩
        cases given

/-- A state is decoded if and only if each validator of its list can be decoded by itself. -/
theorem decodeValue_state_iff {state : Json} {validators : List GenesisValidator} :
    Decoder.decodeValue stateDecoder state = .ok validators ↔
      ∃ entries, entries? state = some entries ∧
        entries.map (Decoder.decodeValue GenesisValidator.decoder) = validators.map .ok := by
  rw [decodeValue_eq_ok_iff, stateDecoder, Json.single_withDefault_iff, entries?_eq_bind]
  constructor
  · rintro ⟨values, depth, given, ⟨rfl, rfl⟩ | ⟨value, rfl, read⟩⟩
    · exact ⟨[], by rw [given]; rfl, rfl⟩
    · have room := Json.nesting_le_of_singleField? given List.mem_cons_self
      obtain ⟨entries, rfl, each⟩ := (list_eq_ok_iff room).1 read
      exact ⟨entries, by rw [given]; rfl, each⟩
  · rintro ⟨entries, listed, each⟩
    obtain ⟨⟨values, depth⟩, given, sole⟩ := Option.bind_eq_some_iff.1 listed
    refine ⟨values, depth, given, ?_⟩
    rcases values with _ | ⟨value, _ | ⟨_, _⟩⟩
    · cases sole
      cases validators with
      | nil => exact .inl ⟨rfl, rfl⟩
      | cons => cases each
    · cases value with
      | array listed =>
          cases sole
          have room := Json.nesting_le_of_singleField? given List.mem_cons_self
          exact .inr ⟨_, rfl, (list_eq_ok_iff room).2 ⟨_, rfl, each⟩⟩
      | _ => cases sole
    · cases value <;> cases sole

end Staking
end ChainIndexer
