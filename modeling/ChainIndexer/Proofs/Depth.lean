import ChainIndexer.Json.Record

/-! Depth. A decoder is told how many arrays and objects may still be entered. Where that is enough
for all of a value, more of it makes no difference, so that a value is read alike by itself and
inside of another. -/
namespace ChainIndexer.Json

theorem toTrees_eq_map (items : List Json) : toTrees items = items.map toTree := by
  induction items with
  | nil => rfl
  | cons v vs ih => exact congrArg (v.toTree :: ·) ih

theorem toTreeFields_eq_map (fields : List (String × Json)) :
    toTreeFields fields = fields.map fun (key, v) => (some key, v.toTree) := by
  induction fields with
  | nil => rfl
  | cons field fields ih =>
      obtain ⟨key, v⟩ := field
      exact congrArg ((some key, v.toTree) :: ·) ih

theorem nesting_le_nestingItems {items : List Json} {v : Json} (member : v ∈ items) :
    v.nesting ≤ nestingItems items := by
  induction items with
  | nil => cases member
  | cons first items ih =>
      rcases List.mem_cons.1 member with rfl | member
      · exact Nat.le_max_left _ _
      · exact Nat.le_trans (ih member) (Nat.le_max_right _ _)

theorem nesting_le_nestingFields {fields : List (String × Json)} {key : String} {v : Json}
    (member : (key, v) ∈ fields) : v.nesting ≤ nestingFields fields := by
  induction fields with
  | nil => cases member
  | cons first fields ih =>
      obtain ⟨firstKey, first⟩ := first
      rcases List.mem_cons.1 member with same | member
      · cases same
        exact Nat.le_max_left _ _
      · exact Nat.le_trans (ih member) (Nat.le_max_right _ _)

/-- A decoder reads a value alike wherever there is room for all of it. -/
def Decoder.Level {α : Type} (item : Decoder α) : Prop :=
  ∀ (v : Json) (depth : Nat), v.nesting ≤ depth → item depth v.toTree = item v.nesting v.toTree

namespace Given

def Roomy (g : Given) : Prop :=
  ∀ field ∈ g.fields, ∃ v : Json, field.2 = v.toTree ∧ v.nesting ≤ g.depth

theorem mem_ofFields {names : List String} {seen : List (String × Tree)} {ended : Bool}
    {given : List (Option String × Tree)} {field : String × Tree}
    (member : field ∈ (ofFields names seen ended given).1) :
    field ∈ seen ∨ (some field.1, field.2) ∈ given := by
  induction given generalizing seen with
  | nil => exact .inl member
  | cons first given ih =>
      obtain ⟨key, t⟩ := first
      cases key with
      | none => exact .inl member
      | some key =>
          unfold ofFields at member
          split at member
          · split at member
            · exact .inl member
            · rcases ih member with earlier | later
              · rcases List.mem_append.1 earlier with earlier | here
                · exact .inl earlier
                · obtain rfl := List.mem_singleton.1 here
                  exact .inr List.mem_cons_self
              · exact .inr (List.mem_cons_of_mem _ later)
          · exact (ih member).imp_right (List.mem_cons_of_mem _)

theorem roomy_object {names : List String} {fields : List (String × Json)} {depth : Nat}
    (room : nestingFields fields ≤ depth) {trouble : Option String} :
    Roomy ⟨true, depth, (ofFields names [] true (toTreeFields fields)).1, trouble⟩ := by
  intro field member
  rcases mem_ofFields member with none | given
  · cases none
  · rw [toTreeFields_eq_map] at given
    obtain ⟨⟨key, v⟩, given, same⟩ := List.mem_map.1 given
    exact ⟨v, (congrArg Prod.snd same).symm, Nat.le_trans (nesting_le_nestingFields given) room⟩

theorem roomy_array {names : List String} {items : List Json} {depth : Nat}
    (room : nestingItems items ≤ depth) {trouble : Option String} :
    Roomy ⟨false, depth, (ofItems names (toTrees items) true).1, trouble⟩ := by
  rintro ⟨name, t⟩ member
  have given : t ∈ toTrees items := (List.of_mem_zip member).2
  rw [toTrees_eq_map] at given
  obtain ⟨v, given, same⟩ := List.mem_map.1 given
  exact ⟨v, same.symm, Nat.le_trans (nesting_le_nestingItems given) room⟩

theorem mem_of_find? {g : Given} {name : String} {place : Nat} {t : Tree}
    (found : g.find? name = some (place, t)) : ∃ key, (key, t) ∈ g.fields := by
  obtain ⟨⟨field, index⟩, listed, same⟩ := Option.map_eq_some_iff.1 found
  obtain rfl : field.2 = t := congrArg Prod.snd same
  obtain ⟨_, _, here⟩ := List.mem_zipIdx (List.mem_of_find?_eq_some listed)
  exact ⟨field.1, here ▸ List.getElem_mem _⟩

end Given

namespace Record

variable {α β : Type}

/-- A record reads its fields alike wherever there is room for them. -/
def Level (r : Record α) : Prop :=
  ∀ (g : Given) (depth : Nat), g.Roomy → g.depth ≤ depth → r.read { g with depth } = r.read g

theorem level_field {name : String} {item : Decoder α} {missing : Given → Option α}
    (h : item.Level) (blind : ∀ (g : Given) (depth : Nat), missing { g with depth } = missing g) :
    (field name item missing).Level := by
  intro g depth room le
  have same : Given.find? { g with depth } name = g.find? name := rfl
  simp only [field, same, blind]
  cases sought : g.find? name with
  | none => cases missing g <;> rfl
  | some found =>
      obtain ⟨place, t⟩ := found
      obtain ⟨key, member⟩ := Given.mem_of_find? sought
      obtain ⟨v, same, fits⟩ := room _ member
      obtain rfl : t = v.toTree := same
      dsimp only
      rw [h v depth (Nat.le_trans fits le), h v g.depth fits]

theorem level_required {name : String} {item : Decoder α} (h : item.Level) :
    (required name item).Level := level_field h fun _ _ => rfl

theorem level_withDefault {name : String} {item : Decoder α} {default : α} (h : item.Level) :
    (withDefault name item default).Level := level_field h fun _ _ => rfl

theorem level_seq {f : Record (α → β)} {x : Record α} (first : f.Level) (second : x.Level) :
    (f <*> x).Level := by
  intro g depth room le
  simp only [Seq.seq, first g depth room le, second g depth room le]

theorem level_map {f : α → β} {x : Record α} (h : x.Level) : (f <$> x).Level :=
  level_seq (f := pure f) (fun _ _ _ _ => rfl) h

def judge (r : Record α) (g : Given) : Except String α :=
  match r.read g, g.trouble with
  | .ok a, none => .ok a
  | .ok _, some trouble => .error trouble
  | .error e, none => .error e.diagnosis
  | .error e, some trouble =>
    .error (if e.place < g.fields.length then e.diagnosis else trouble)

theorem decoder_object (r : Record α) (fields : List (String × Json)) (depth : Nat) :
    r.decoder (depth + 1) (Json.object fields).toTree =
      r.judge ⟨true, depth, (Given.ofFields r.names [] true (toTreeFields fields)).1,
        (Given.ofFields r.names [] true (toTreeFields fields)).2⟩ := rfl

theorem decoder_array (r : Record α) (items : List Json) (depth : Nat) :
    r.decoder (depth + 1) (Json.array items).toTree =
      r.judge ⟨false, depth, (Given.ofItems r.names (toTrees items) true).1,
        (Given.ofItems r.names (toTrees items) true).2⟩ := rfl

theorem level_decoder {r : Record α} (h : r.Level) : r.decoder.Level := by
  have judged {g : Given} (room : g.Roomy) {depth : Nat} (le : g.depth ≤ depth) :
      r.judge { g with depth } = r.judge g := by
    unfold judge
    rw [h g depth room le]
  intro v depth le
  cases v with
  | object fields =>
      cases depth with
      | zero => exact absurd le (Nat.not_succ_le_zero _)
      | succ depth =>
          rw [decoder_object, nesting, decoder_object]
          exact judged (Given.roomy_object (Nat.le_refl _)) (Nat.le_of_succ_le_succ le)
  | array items =>
      cases depth with
      | zero => exact absurd le (Nat.not_succ_le_zero _)
      | succ depth =>
          rw [decoder_array, nesting, decoder_array]
          exact judged (Given.roomy_array (Nat.le_refl _)) (Nat.le_of_succ_le_succ le)
  | _ => cases depth <;> rfl

end Record

namespace Decoder

theorem level_text : Level text := fun v depth _ => by cases v <;> rfl

theorem level_single {α : Type} {name : String} {item : Decoder α} (h : item.Level) :
    (single name item).Level := Record.level_decoder (Record.level_required h)

theorem list_array {α : Type} {item : Decoder α} (h : item.Level) (items : List Json) {depth : Nat}
    (le : nestingItems items ≤ depth) :
    list item (depth + 1) (Json.array items).toTree =
      items.mapM fun v => item v.nesting v.toTree := by
  have same : (toTrees items).mapM (item depth) = items.mapM fun v => item v.nesting v.toTree := by
    rw [toTrees_eq_map]
    induction items with
    | nil => rfl
    | cons v items ih =>
        have rest := ih (Nat.le_trans (Nat.le_max_right _ _) le)
        rw [List.map_cons, List.mapM_cons, List.mapM_cons, rest,
          h v depth (Nat.le_trans (Nat.le_max_left _ _) le)]
  change ((toTrees items).mapM (item depth) >>= fun values => pure values) = _
  rw [same]
  exact bind_pure _

end Decoder

end ChainIndexer.Json
