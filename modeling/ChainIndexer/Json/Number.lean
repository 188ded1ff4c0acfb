/-! Numbers of a JSON text. A numeral without fraction and exponent that fits sixty-four bits is an
integer; every other numeral is a double, made from those of its leading digits that fit
sixty-four bits and one power of ten. -/
namespace ChainIndexer.Json

inductive Number where
  | natural (n : UInt64)
  | negative (n : Int64)
  | double (bits : UInt64)
  deriving DecidableEq, Repr

namespace Number

def integer? : Number → Option Int
  | natural n => some n.toNat
  | negative n => some n.toInt
  | double _ => none

end Number

structure Numeral where
  negative : Bool
  whole : List Nat
  fraction : Option (List Nat)
  /-- Whether the exponent is below zero, and its digits. -/
  exponent : Option (Bool × List Nat)
  deriving DecidableEq, Repr

namespace Numeral

def isDigit (b : UInt8) : Bool := 0x30 ≤ b && b ≤ 0x39

def digitValue (b : UInt8) : Nat := b.toNat - 48

def takeDigits (bs : List UInt8) : List Nat × List UInt8 :=
  ((bs.takeWhile isDigit).map digitValue, bs.dropWhile isDigit)

def takeFraction : List UInt8 → Option (Option (List Nat) × List UInt8)
  | 0x2E :: bs =>
    match takeDigits bs with
    | ([], _) => none
    | (ds, rest) => some (some ds, rest)
  | bs => some (none, bs)

def takeExponent : List UInt8 → Option (Option (Bool × List Nat))
  | [] => some none
  | e :: bs =>
    if e = 0x65 ∨ e = 0x45 then
      let (below, bs) := match bs with
        | 0x2D :: rest => (true, rest)
        | 0x2B :: rest => (false, rest)
        | _ => (false, bs)
      match takeDigits bs with
      | ([], _) => none
      | (ds, []) => some (some (below, ds))
      | (_, _ :: _) => none
    else none

/-- No digits, or a zero before others, make no whole part. -/
def validWhole : List Nat → Bool
  | [] => false
  | [_] => true
  | d :: _ => d != 0

def ofBytes? (bs : List UInt8) : Option Numeral := do
  let (negative, bs) := match bs with
    | 0x2D :: rest => (true, rest)
    | _ => (false, bs)
  let (whole, bs) := takeDigits bs
  if validWhole whole then
    let (fraction, bs) ← takeFraction bs
    let exponent ← takeExponent bs
    return { negative, whole, fraction, exponent }
  else none

/-- Adds digits to a number while it fits sixty-four bits. Gives back those that did not. -/
def absorb (n : Nat) : List Nat → Nat × List Nat
  | [] => (n, [])
  | d :: ds => if 10 * n + d < UInt64.size then absorb (10 * n + d) ds else (n, d :: ds)

def ofDigits (ds : List Nat) : Nat := ds.foldl (10 * · + ·) 0

def exponentValue (n : Numeral) : Int :=
  match n.exponent with
  | none => 0
  | some (true, ds) => - (ofDigits ds : Int)
  | some (false, ds) => ofDigits ds

def powerOfTen (n : Nat) : Float := Float.ofScientific 1 false n

/-- Scales a double by a power of ten, in steps that a double can hold. Nothing if it grows
beyond all doubles. -/
def scale (x : Float) (exponent : Int) : Option Float :=
  if exponent.natAbs < 309 then
    if 0 ≤ exponent then
      let y := x * powerOfTen exponent.natAbs
      if y.isInf then none else some y
    else some (x / powerOfTen exponent.natAbs)
  else if x == 0 then some x
  else if 0 ≤ exponent then none
  else scale (x / powerOfTen 308) (exponent + 308)
termination_by exponent.natAbs

def double? (n : Numeral) : Option UInt64 :=
  let (whole, dropped) := absorb 0 n.whole
  let places := n.fraction.getD []
  let (significand, unused) := absorb whole places
  let used := places.length - unused.length
  let exponent : Int := dropped.length - used + n.exponentValue
  (scale significand.toUInt64.toFloat exponent).map fun x =>
    (if n.negative then -x else x).toBits

/-- The integer for a numeral that writes one: below zero only if it is not zero. -/
def integer? (n : Numeral) : Option Number :=
  if n.fraction.isSome || n.exponent.isSome then none
  else
    match absorb 0 n.whole with
    | (m, []) =>
      if n.negative then
        if 0 < m ∧ m ≤ Nat.pow 2 63 then some (.negative (Int64.ofInt (-m))) else none
      else some (.natural (UInt64.ofNat m))
    | (_, _ :: _) => none

/-- The number that a numeral stands for. Nothing if it is out of range. -/
def value? (n : Numeral) : Option Number :=
  n.integer? <|> n.double?.map .double

end Numeral
end ChainIndexer.Json
