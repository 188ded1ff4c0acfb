import ChainIndexer.Json.Value

/-! Values as JSON text, without blanks. How doubles are written is left to the caller. -/
namespace ChainIndexer.Json

def escape (c : Char) : List Char :=
  if c = '"' ∨ c = '\\' then ['\\', c]
  else if c.toNat < 0x20 then '\\' :: 'u' :: '0' :: '0' ::
    [Hex.lowerDigit (c.toNat / 16), Hex.lowerDigit (c.toNat % 16)]
  else [c]

def quote (s : String) : List Char := '"' :: s.toList.flatMap escape ++ ['"']

def separate : List (List Char) → List Char
  | [] => []
  | [t] => t
  | t :: ts => t ++ ',' :: separate ts

mutual

def characters (double : UInt64 → String) : Json → List Char
  | .null => "null".toList
  | .bool b => if b then "true".toList else "false".toList
  | .number (.natural n) => (toString n.toNat).toList
  | .number (.negative n) => (toString n.toInt).toList
  | .number (.double bits) => (double bits).toList
  | .text s => quote s
  | .array items => '[' :: separate (itemCharacters double items) ++ [']']
  | .object fields => '\x7b' :: separate (fieldCharacters double fields) ++ ['\x7d']

def itemCharacters (double : UInt64 → String) : List Json → List (List Char)
  | [] => []
  | v :: vs => v.characters double :: itemCharacters double vs

def fieldCharacters (double : UInt64 → String) : List (String × Json) → List (List Char)
  | [] => []
  | (key, v) :: rest => (quote key ++ ':' :: v.characters double) :: fieldCharacters double rest

end

/-- The text of a value, given how to write doubles. -/
def render (double : UInt64 → String) (v : Json) : String := String.ofList (v.characters double)

end ChainIndexer.Json
