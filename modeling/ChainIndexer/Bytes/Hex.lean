/-! Bytes as hexadecimal text: two digits a byte, the high half first. Written in one case, read
in either. -/
namespace ChainIndexer

abbrev Bytes := List UInt8

namespace Hex

def upperDigit (n : Nat) : Char := if n < 10 then Char.ofNat (48 + n) else Char.ofNat (55 + n)

def lowerDigit (n : Nat) : Char := if n < 10 then Char.ofNat (48 + n) else Char.ofNat (87 + n)

def digits (digit : Nat → Char) (bs : Bytes) : List Char :=
  bs.flatMap fun b => [digit (b.toNat / 16), digit (b.toNat % 16)]

def encodeUpper (bs : Bytes) : String := String.ofList (digits upperDigit bs)

def encodeLower (bs : Bytes) : String := String.ofList (digits lowerDigit bs)

def digitValue? (c : Char) : Option Nat :=
  if '0' ≤ c ∧ c ≤ '9' then some (c.toNat - 48)
  else if 'A' ≤ c ∧ c ≤ 'F' then some (c.toNat - 55)
  else if 'a' ≤ c ∧ c ≤ 'f' then some (c.toNat - 87)
  else none

/-- Refuses an odd number of digits and everything that is no digit. -/
def decodeChars? : List Char → Option Bytes
  | [] => some []
  | [_] => none
  | high :: low :: rest => do
    let h ← digitValue? high
    let l ← digitValue? low
    let bs ← decodeChars? rest
    return UInt8.ofNat (16 * h + l) :: bs

def decode? (s : String) : Option Bytes := decodeChars? s.toList

end Hex
end ChainIndexer
