import ChainIndexer.Bytes.Hex

/-! Bytes as base 64 text, four characters for three bytes. Reading accepts exactly the written
form: padding is required, and the bits that padding leaves over must be zero. -/
namespace ChainIndexer.Base64

def symbol (n : Nat) : Char :=
  if n < 26 then Char.ofNat (65 + n)
  else if n < 52 then Char.ofNat (71 + n)
  else if n < 62 then Char.ofNat (n - 4)
  else if n = 62 then '+'
  else '/'

def symbolValue? (c : Char) : Option Nat :=
  if 'A' ≤ c ∧ c ≤ 'Z' then some (c.toNat - 65)
  else if 'a' ≤ c ∧ c ≤ 'z' then some (c.toNat - 71)
  else if '0' ≤ c ∧ c ≤ '9' then some (c.toNat + 4)
  else if c = '+' then some 62
  else if c = '/' then some 63
  else none

def encodeChars : Bytes → List Char
  | [] => []
  | [a] => [symbol (a.toNat / 4), symbol (a.toNat % 4 * 16), '=', '=']
  | [a, b] =>
    [symbol (a.toNat / 4), symbol (a.toNat % 4 * 16 + b.toNat / 16),
      symbol (b.toNat % 16 * 4), '=']
  | a :: b :: c :: rest =>
    symbol (a.toNat / 4) :: symbol (a.toNat % 4 * 16 + b.toNat / 16) ::
      symbol (b.toNat % 16 * 4 + c.toNat / 64) :: symbol (c.toNat % 64) :: encodeChars rest

def encode (bs : Bytes) : String := String.ofList (encodeChars bs)

/-- One byte from two values, whose four lowest bits are left over. -/
def one? (a b : Nat) : Option Bytes :=
  if b % 16 = 0 then some [UInt8.ofNat (a * 4 + b / 16)] else none

/-- Two bytes from three values, whose two lowest bits are left over. -/
def two? (a b c : Nat) : Option Bytes :=
  if c % 4 = 0 then some [UInt8.ofNat (a * 4 + b / 16), UInt8.ofNat (b % 16 * 16 + c / 4)]
  else none

def decodeChars? : List Char → Option Bytes
  | [] => some []
  | [a, b, '=', '='] => do one? (← symbolValue? a) (← symbolValue? b)
  | [a, b, c, '='] => do two? (← symbolValue? a) (← symbolValue? b) (← symbolValue? c)
  | a :: b :: c :: d :: rest => do
    let a ← symbolValue? a
    let b ← symbolValue? b
    let c ← symbolValue? c
    let d ← symbolValue? d
    let bs ← decodeChars? rest
    return UInt8.ofNat (a * 4 + b / 16) :: UInt8.ofNat (b % 16 * 16 + c / 4) ::
      UInt8.ofNat (c % 4 * 64 + d) :: bs
  | _ => none

def decode? (s : String) : Option Bytes := decodeChars? s.toList

end ChainIndexer.Base64
