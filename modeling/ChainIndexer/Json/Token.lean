import ChainIndexer.Bytes.Utf8
import ChainIndexer.Json.Number

/-! The tokens of a JSON text, as far as it is made of tokens. A string or a number that is well
written but has no value, such as half of a surrogate pair or a number out of range, is a token
without value: it may stand where nobody reads it. -/
namespace ChainIndexer.Json

inductive Token where
  | beginArray
  | endArray
  | beginObject
  | endObject
  | colon
  | comma
  | null
  | bool (b : Bool)
  | number (value : Option Number)
  | text (value : Option String)
  deriving DecidableEq, Repr

/-- What stands between the quotes of a string: a byte as it is, or a number of four hexadecimal
digits. -/
inductive Piece where
  | byte (b : UInt8)
  | unit (n : Nat)
  deriving DecidableEq, Repr

namespace Piece

/-- The bytes for pieces. The two halves of a surrogate pair must follow one another. -/
def bytes? (pieces : List Piece) : Option Bytes :=
  go [] pieces
where
  /-- `done` holds the bytes so far, last first. -/
  go (done : Bytes) : List Piece → Option Bytes
    | [] => some done.reverse
    | .byte b :: rest => go (b :: done) rest
    | .unit n :: rest =>
      if 0xD800 ≤ n ∧ n < 0xDC00 then
        match rest with
        | .unit m :: rest =>
          if 0xDC00 ≤ m ∧ m < 0xE000 then
            go (push (0x10000 + (n - 0xD800) * 0x400 + (m - 0xDC00)) done) rest
          else none
        | _ => none
      else if 0xDC00 ≤ n ∧ n < 0xE000 then none
      else go (push n done) rest
  push (n : Nat) (done : Bytes) : Bytes :=
    (Utf8.encode (String.singleton (Char.ofNat n))).reverse ++ done

def text? (pieces : List Piece) : Option String := (bytes? pieces).bind Utf8.decode?

end Piece

/-- What has been read of a token that is not complete, last first. -/
inductive Partial where
  | nothing
  | word (letters : Bytes)
  | numeral (characters : Bytes)
  | string (pieces : List Piece)
  /-- The same after a backslash. -/
  | escape (pieces : List Piece)
  /-- The same in a number of four digits: those still to come, and the value so far. -/
  | unit (pieces : List Piece) (missing value : Nat)

namespace Lexer

/-- What has been read of a token, and the tokens before it, last first. -/
abbrev State := Partial × List Token

def isBlank (b : UInt8) : Bool := b == 0x20 || b == 0x0A || b == 0x0D || b == 0x09

def isLetter (b : UInt8) : Bool := 0x61 ≤ b && b ≤ 0x7A

def isNumeral (b : UInt8) : Bool :=
  Numeral.isDigit b || b == 0x2D || b == 0x2B || b == 0x2E || b == 0x65 || b == 0x45

def punctuation? (b : UInt8) : Option Token :=
  if b = 0x5B then some .beginArray
  else if b = 0x5D then some .endArray
  else if b = 0x7B then some .beginObject
  else if b = 0x7D then some .endObject
  else if b = 0x3A then some .colon
  else if b = 0x2C then some .comma
  else none

def word? (letters : Bytes) : Option Token :=
  if letters = Utf8.encode "null" then some .null
  else if letters = Utf8.encode "true" then some (.bool true)
  else if letters = Utf8.encode "false" then some (.bool false)
  else none

/-- Completes a token that nothing else ends than what follows it. -/
def close : State → Option (List Token)
  | (.nothing, ts) => some ts
  | (.word letters, ts) => do return (← word? letters.reverse) :: ts
  | (.numeral characters, ts) => do
    return .number (← Numeral.ofBytes? characters.reverse).value? :: ts
  | (.string _, _) | (.escape _, _) | (.unit _ _ _, _) => none

def start (ts : List Token) (b : UInt8) : Option State :=
  if isBlank b then some (.nothing, ts)
  else if b = 0x22 then some (.string [], ts)
  else if isLetter b then some (.word [b], ts)
  else if isNumeral b then some (.numeral [b], ts)
  else (punctuation? b).map fun t => (.nothing, t :: ts)

def escaped? (b : UInt8) : Option UInt8 :=
  if b = 0x22 ∨ b = 0x5C ∨ b = 0x2F then some b
  else if b = 0x62 then some 0x08
  else if b = 0x66 then some 0x0C
  else if b = 0x6E then some 0x0A
  else if b = 0x72 then some 0x0D
  else if b = 0x74 then some 0x09
  else none

def step : State → UInt8 → Option State
  | (.nothing, ts), b => start ts b
  | (.word letters, ts), b =>
    if isLetter b then some (.word (b :: letters), ts)
    else do start (← close (.word letters, ts)) b
  | (.numeral characters, ts), b =>
    if isNumeral b then some (.numeral (b :: characters), ts)
    else do start (← close (.numeral characters, ts)) b
  | (.string pieces, ts), b =>
    if b = 0x22 then some (.nothing, .text (Piece.text? pieces.reverse) :: ts)
    else if b = 0x5C then some (.escape pieces, ts)
    else if b < 0x20 then none
    else some (.string (.byte b :: pieces), ts)
  | (.escape pieces, ts), b =>
    if b = 0x75 then some (.unit pieces 4 0, ts)
    else (escaped? b).map fun c => (.string (.byte c :: pieces), ts)
  | (.unit pieces missing value, ts), b =>
    match Hex.digitValue? (Char.ofNat b.toNat), missing with
    | some d, n + 2 => some (.unit pieces (n + 1) (16 * value + d), ts)
    | some d, _ => some (.string (.unit (16 * value + d) :: pieces), ts)
    | none, _ => none

/-- Takes in bytes, one after the other, up to one that cannot follow. The answer is whether all
could. -/
def steps : State → Bytes → State × Bool
  | s, [] => (s, true)
  | s, b :: bs =>
    match step s b with
    | some s => steps s bs
    | none => (s, false)

end Lexer

/-- The tokens at the beginning of a text, and whether they are the whole text. -/
def Token.ofBytes (bs : Bytes) : List Token × Bool :=
  match Lexer.steps (.nothing, []) bs with
  | (s, true) =>
    match Lexer.close s with
    | some ts => (ts.reverse, true)
    | none => (s.2.reverse, false)
  | (s, false) => (s.2.reverse, false)

end ChainIndexer.Json
