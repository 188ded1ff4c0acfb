import ChainIndexer.Json.Decoder

/-! Records: decoders for objects whose fields are known. Instead of an object a text may give an
array of the fields in the order in which they are declared. Fields the record does not know are
passed over. -/
namespace ChainIndexer.Json

/-- What a tree gives for a record. -/
structure Given where
  named : Bool
  /-- How many arrays and objects a field may enter. -/
  depth : Nat
  /-- The known fields in the order of the text, up to the first trouble between fields. -/
  fields : List (String × Tree)
  trouble : Option String

namespace Given

/-- The known fields of an object, after `seen`. None of them may come twice, and every key must be
readable. -/
def ofFields (names : List String) (seen : List (String × Tree)) (ended : Bool) :
    List (Option String × Tree) → List (String × Tree) × Option String
  | [] => (seen, if ended then none else some "text is not JSON")
  | (none, _) :: _ => (seen, some "key without value")
  | (some key, t) :: rest =>
    if key ∈ names then
      if seen.any (·.1 == key) then (seen, some ("duplicate field " ++ key))
      else ofFields names (seen ++ [(key, t)]) ended rest
    else ofFields names seen ended rest

/-- What an array gives: a field for each item, as far as there are fields. -/
def ofItems (names : List String) (items : List Tree) (ended : Bool) :
    List (String × Tree) × Option String :=
  (names.zip items,
    if names.length < items.length then some "more elements than fields"
    else if ended then none
    else some "text is not JSON")

def ofTree (names : List String) : Nat → Tree → Except String Given
  | 0, .array _ _ | 0, .object _ _ => Decoder.tooDeep
  | depth + 1, .object given ended =>
    let (fields, trouble) := ofFields names [] ended given
    .ok { named := true, depth, fields, trouble }
  | depth + 1, .array items ended =>
    let (fields, trouble) := ofItems names items ended
    .ok { named := false, depth, fields, trouble }
  | _, t => Decoder.mismatch "a record" t

def find? (g : Given) (name : String) : Option (Nat × Tree) :=
  (g.fields.zipIdx.find? (·.1.1 == name)).map fun (field, place) => (place, field.2)

end Given

/-- Why a record cannot be read, and the place in the text of the field to blame. -/
structure Complaint where
  place : Nat
  diagnosis : String

def Complaint.first (a b : Complaint) : Complaint := if b.place < a.place then b else a

structure Record (α : Type) where
  names : List String
  read : Given → Except Complaint α

namespace Record

/-- Fields one after the other. Of two complaints the first in the text counts, in whatever order
the fields are declared. -/
instance : Applicative Record where
  pure a := ⟨[], fun _ => .ok a⟩
  seq f x :=
    { names := f.names ++ (x ()).names
      read := fun g =>
        match f.read g, (x ()).read g with
        | .ok f, .ok a => .ok (f a)
        | .error e, .ok _ | .ok _, .error e => .error e
        | .error e, .error e' => .error (e.first e') }

def field (name : String) (item : Decoder α) (missing : Given → Option α) : Record α where
  names := [name]
  read g :=
    match g.find? name, missing g with
    | some (place, t), _ => (item g.depth t).mapError (Complaint.mk place)
    | none, some a => .ok a
    | none, none => .error ⟨g.fields.length, "missing field " ++ name⟩

def required (name : String) (item : Decoder α) : Record α := field name item fun _ => none

def withDefault (name : String) (item : Decoder α) (default : α) : Record α :=
  field name item fun _ => some default

/-- A field that may be null. An object may leave it out, an array may not. -/
def nullable (name : String) (item : Decoder α) : Record (Option α) :=
  field name (Decoder.optional item) fun g => if g.named then some none else none

def decoder (r : Record α) : Decoder α := fun depth t => do
  let g ← Given.ofTree r.names depth t
  match r.read g, g.trouble with
  | .ok a, none => .ok a
  | .ok _, some trouble => .error trouble
  | .error e, none => .error e.diagnosis
  | .error e, some trouble =>
    .error (if e.place < g.fields.length then e.diagnosis else trouble)

end Record

def Decoder.single (name : String) (item : Decoder α) : Decoder α :=
  (Record.required name item).decoder

end ChainIndexer.Json
