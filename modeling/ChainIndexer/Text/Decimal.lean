/-! Integers as decimal text, read within the bounds of a machine integer. -/
namespace ChainIndexer

def Text.digit? (c : Char) : Option Nat :=
  if '0' ≤ c ∧ c ≤ '9' then some (c.toNat - 48) else none

structure IntRange where
  low : Int
  high : Int
  deriving DecidableEq, Repr

namespace IntRange

def unsigned (bits : Nat) : IntRange := ⟨0, Nat.pow 2 bits - 1⟩

def signed (bits : Nat) : IntRange := ⟨-(Nat.pow 2 (bits - 1)), Nat.pow 2 (bits - 1) - 1⟩

def contains (r : IntRange) (n : Int) : Bool := r.low ≤ n && n ≤ r.high

/-- The number that digits write, after `n` has been read. -/
def readDigits (n : Nat) : List Char → Option Nat
  | [] => some n
  | c :: cs => do readDigits (10 * n + (← Text.digit? c)) cs

/-- Reads at least one digit, after a sign. A plus sign is always allowed, a minus sign only
where the range has negative numbers. -/
def readSigned (r : IntRange) : List Char → Option Int
  | [] => none
  | '+' :: c :: cs => (readDigits 0 (c :: cs)).map Int.ofNat
  | '-' :: c :: cs => if r.low < 0 then (readDigits 0 (c :: cs)).map (- Int.ofNat ·) else none
  | cs => (readDigits 0 cs).map Int.ofNat

def read (r : IntRange) (s : String) : Except String Int :=
  match r.readSigned s.toList with
  | none => .error "invalid digit found in string"
  | some n => if r.contains n then .ok n else .error "number out of range of target type"

end IntRange
end ChainIndexer
