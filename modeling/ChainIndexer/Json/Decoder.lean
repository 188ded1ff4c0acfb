import ChainIndexer.Json.Value
import ChainIndexer.Text.Decimal
import ChainIndexer.Text.Quoted
import ChainIndexer.Fault

/-! Decoders: from the tree of a JSON text to a value of a known type. A decoder looks only at what
it needs. The rest of the tree may nest without limit and hold strings and numbers without
value; what is looked at may stand inside at most 127 arrays and objects. Of several troubles in
a text the diagnosis names the first, whether it is one of syntax or one of type. -/
namespace ChainIndexer.Json

/-- Reads a tree, given how many arrays and objects may still be entered. The error is a
diagnosis. -/
abbrev Decoder (α : Type) := Nat → Tree → Except String α

namespace Decoder

def describe : Tree → String
  | .null => "null"
  | .bool _ => "boolean"
  | .number (some n) => if n.integer?.isSome then "integer" else "floating point"
  | .number none => "number out of range"
  | .text (some s) => "string " ++ Text.quoted s
  | .text none => "string with a lone surrogate or malformed bytes"
  | .array _ _ => "sequence"
  | .object _ _ => "map"

def mismatch (expected : String) (t : Tree) : Except String α :=
  .error ("invalid type: " ++ describe t ++ ", expected " ++ expected)

def tooDeep : Except String α := .error "nested too deeply"

def checkEnded (ended : Bool) : Except String Unit :=
  if ended then .ok () else .error "text is not JSON"

def text : Decoder String
  | _, .text (some s) => .ok s
  | _, t => mismatch "a string" t

def bool : Decoder Bool
  | _, .bool b => .ok b
  | _, t => mismatch "a boolean" t

def integer (range : IntRange) : Decoder Int
  | _, .number (some n) =>
    match n.integer? with
    | some i => if range.contains i then .ok i else .error "integer out of range"
    | none => mismatch "an integer" (.number (some n))
  | _, t => mismatch "an integer" t

/-- An integer of a range, written as a number or as decimal text. The chain writes integers of
sixty-four bits as text. -/
def integerOrText (range : IntRange) : Decoder Int
  | depth, .number n => integer range depth (.number n)
  | _, .text (some s) => range.read s
  | _, t => mismatch "an integer or a decimal string" t

def natural : Decoder UInt64 := fun depth t =>
  (integer (.unsigned 64) depth t).map fun i => UInt64.ofNat i.toNat

def naturalOrText : Decoder UInt64 := fun depth t =>
  (integerOrText (.unsigned 64) depth t).map fun i => UInt64.ofNat i.toNat

def signedOrText : Decoder Int64 := fun depth t =>
  (integerOrText (.signed 64) depth t).map Int64.ofInt

def optional (item : Decoder α) : Decoder (Option α)
  | _, .null => .ok none
  | depth, t => (item depth t).map some

def list (item : Decoder α) : Decoder (List α)
  | 0, .array _ _ => tooDeep
  | depth + 1, .array items ended => do
    let values ← items.mapM (item depth)
    checkEnded ended
    return values
  | _, t => mismatch "a sequence" t

def value : Nat → Tree → Except String Json
  | _, .null => .ok .null
  | _, .bool b => .ok (.bool b)
  | _, .number (some n) => .ok (.number n)
  | _, .text (some s) => .ok (.text s)
  | depth + 1, .array items ended => do
    let items ← items.mapM (value depth)
    checkEnded ended
    return .array items
  | depth + 1, .object fields ended => do
    let fields ← fields.mapM fun (key, t) =>
      match key with
      | some key => (value depth t).map (key, ·)
      | none => .error "key without value"
    checkEnded ended
    return .object (collectFields fields)
  | 0, .array _ _ | 0, .object _ _ => tooDeep
  | _, t => mismatch "any value" t

def valueFields : Decoder (List (String × Json))
  | depth, .object fields ended => do
    match ← value depth (.object fields ended) with
    | .object fields => return fields
    | _ => return []
  | _, t => mismatch "a map" t

/-- Reads a whole text, with at most `limit` arrays and objects inside one another. -/
def readText (limit : Nat) (item : Decoder α) (bs : Bytes) : Except String α := do
  let doc := Document.ofBytes bs
  match doc.value with
  | none => .error "text is not JSON"
  | some t =>
    let a ← item limit t
    if doc.complete then return a else .error "text is not JSON"

/-- Arrays and objects that may stand inside one another in a text. -/
def depthLimit : Nat := 127

def decode (item : Decoder α) (bs : Bytes) : Except Fault α :=
  (readText depthLimit item bs).mapError Fault.undecodable

def decodeValue (item : Decoder α) (v : Json) : Except Fault α :=
  (item v.nesting v.toTree).mapError Fault.undecodable

end Decoder
end ChainIndexer.Json
