import ChainIndexer.Json.Tree

/-! JSON values that are kept: every string is a text and every number has a value. An object
holds each key once, in the order in which the keys first came. -/
namespace ChainIndexer

inductive Json where
  | null
  | bool (b : Bool)
  | number (n : Json.Number)
  | text (s : String)
  | array (items : List Json)
  | object (fields : List (String × Json))
  deriving Repr, Inhabited

namespace Json

def natural (n : UInt64) : Json := .number (.natural n)

def ofText? : Option String → Json
  | some s => .text s
  | none => .null

/-- Gives a key its value. A key that is there keeps its place. -/
def setField (key : String) (value : Json) : List (String × Json) → List (String × Json)
  | [] => [(key, value)]
  | (k, v) :: rest => if k = key then (k, value) :: rest else (k, v) :: setField key value rest

/-- The fields of an object, from those of a text: a repeated key has its first place and its last
value. -/
def collectFields (fields : List (String × Json)) : List (String × Json) :=
  fields.foldl (fun done f => setField f.1 f.2 done) []

def lookup? (key : String) (fields : List (String × Json)) : Option Json :=
  (fields.find? (·.1 == key)).map (·.2)

mutual

def toTree : Json → Tree
  | .null => .null
  | .bool b => .bool b
  | .number n => .number (some n)
  | .text s => .text (some s)
  | .array items => .array (toTrees items) true
  | .object fields => .object (toTreeFields fields) true

def toTrees : List Json → List Tree
  | [] => []
  | v :: vs => v.toTree :: toTrees vs

def toTreeFields : List (String × Json) → List (Option String × Tree)
  | [] => []
  | (key, v) :: rest => (some key, v.toTree) :: toTreeFields rest

end

mutual

/-- How many arrays and objects stand inside one another. -/
def nesting : Json → Nat
  | .array items => nestingItems items + 1
  | .object fields => nestingFields fields + 1
  | _ => 0

def nestingItems : List Json → Nat
  | [] => 0
  | v :: vs => max v.nesting (nestingItems vs)

def nestingFields : List (String × Json) → Nat
  | [] => 0
  | (_, v) :: rest => max v.nesting (nestingFields rest)

end

end Json
end ChainIndexer
