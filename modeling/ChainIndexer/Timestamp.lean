import ChainIndexer.Fault
import ChainIndexer.Text.Decimal

/-! Instants and their RFC 3339 text. A leap second is kept as the second before it with a
thousand million nanoseconds or more. -/
namespace ChainIndexer

structure Instant where
  seconds : Int
  nanos : Nat
  deriving DecidableEq, Repr

namespace Instant

def nanosPerSecond : Nat := 1000000000

def secondsPerDay : Int := 86400

def le (a b : Instant) : Bool :=
  a.seconds < b.seconds || (a.seconds == b.seconds && a.nanos ≤ b.nanos)

/-- So many seconds earlier. A leap second counts as part of the second after it. -/
def before (t : Instant) (seconds : Nat) : Instant where
  seconds := t.seconds + (t.nanos / nanosPerSecond : Nat) - seconds
  nanos := t.nanos % nanosPerSecond

/-- The leap second, if any, that lies between two times of the day. -/
def leapBetween (late early : Instant) : Int :=
  let lateOfDay := late.seconds % secondsPerDay
  let earlyOfDay := early.seconds % secondsPerDay
  if earlyOfDay < lateOfDay then if nanosPerSecond ≤ early.nanos then 1 else 0
  else if lateOfDay < earlyOfDay then if nanosPerSecond ≤ late.nanos then -1 else 0
  else 0

/-- Whole milliseconds from `early` to `late`, with what is left over dropped. -/
def millisSince (late early : Instant) : Int :=
  ((late.seconds - early.seconds + leapBetween late early) * nanosPerSecond
    + (late.nanos - early.nanos : Int)).tdiv 1000000

end Instant

/-! Reading. Each step takes characters off the front and gives back the rest. -/
namespace Timestamp

def digits : Nat → Nat → List Char → Option (Nat × List Char)
  | 0, value, cs => some (value, cs)
  | n + 1, value, c :: cs => do digits n (10 * value + (← Text.digit? c)) cs
  | _ + 1, _, [] => none

def expect (c : Char) : List Char → Option (List Char)
  | d :: cs => if c = d then some cs else none
  | [] => none

/-- Digits after the point: nine count, further ones are skipped. -/
def fraction : Nat → Nat → List Char → Nat × List Char
  | places, value, [] => (value * 10 ^ places, [])
  | places, value, c :: cs =>
    match Text.digit? c with
    | none => (value * 10 ^ places, c :: cs)
    | some d =>
      match places with
      | 0 => fraction 0 value cs
      | places + 1 => fraction places (10 * value + d) cs

/-- An optional point and at least one digit after it, in nanoseconds. -/
def nanos : List Char → Option (Nat × List Char)
  | '.' :: c :: cs => if (Text.digit? c).isSome then some (fraction 9 0 (c :: cs)) else none
  | '.' :: [] => none
  | cs => some (0, cs)

def offsetSize (cs : List Char) : Option (Int × List Char) := do
  let (hours, cs) ← digits 2 0 cs
  let cs ← expect ':' cs
  let (minutes, cs) ← digits 2 0 cs
  if minutes < 60 ∧ hours < 24 then return ((hours * 3600 + minutes * 60 : Nat), cs) else none

/-- The offset from universal time. The minus sign may also be the typographic one. -/
def offset : List Char → Option (Int × List Char)
  | [] => none
  | c :: cs =>
    if c = 'Z' ∨ c = 'z' then some (0, cs)
    else if c = '+' then offsetSize cs
    else if c = '-' ∨ c = '\u2212' then (offsetSize cs).map fun (s, cs) => (-s, cs)
    else none

def isLeapYear (year : Nat) : Bool := year % 4 == 0 && (year % 100 != 0 || year % 400 == 0)

def daysInMonth (year month : Nat) : Nat :=
  if month = 2 then if isLeapYear year then 29 else 28
  else if month = 4 ∨ month = 6 ∨ month = 9 ∨ month = 11 then 30
  else 31

/-- Days from 1970 to a date: years are counted from March, so that a leap day comes last. -/
def dayNumber (year month day : Nat) : Int :=
  let y : Int := if month ≤ 2 then (year : Int) - 1 else year
  let m : Nat := (month + 9) % 12
  365 * y + y.fdiv 4 - y.fdiv 100 + y.fdiv 400 + ((153 * m + 2) / 5 : Nat) + day - 719469

structure Fields where
  year : Nat
  month : Nat
  day : Nat
  hour : Nat
  minute : Nat
  second : Nat
  nanos : Nat
  offset : Int

/-- The date exists and the time of day does; a minute may have a leap second. -/
def Fields.valid (f : Fields) : Bool :=
  1 ≤ f.month && f.month ≤ 12 && 1 ≤ f.day && f.day ≤ daysInMonth f.year f.month &&
    f.hour < 24 && f.minute < 60 && f.second ≤ 60

def Fields.instant (f : Fields) : Instant :=
  let leap := f.second = 60
  { seconds := dayNumber f.year f.month f.day * Instant.secondsPerDay
      + (f.hour * 3600 + f.minute * 60 + (if leap then 59 else f.second) : Nat) - f.offset
    nanos := f.nanos + (if leap then Instant.nanosPerSecond else 0) }

def fields (cs : List Char) : Option (Fields × List Char) := do
  let (year, cs) ← digits 4 0 cs
  let (month, cs) ← digits 2 0 (← expect '-' cs)
  let (day, cs) ← digits 2 0 (← expect '-' cs)
  let cs ← expect 'T' cs <|> expect 't' cs <|> expect ' ' cs
  let (hour, cs) ← digits 2 0 cs
  let (minute, cs) ← digits 2 0 (← expect ':' cs)
  let (second, cs) ← digits 2 0 (← expect ':' cs)
  let (nanos, cs) ← nanos cs
  let (offset, cs) ← offset cs
  return ({ year, month, day, hour, minute, second, nanos, offset }, cs)

/-- The instant a text names, if it is one whole RFC 3339 timestamp. -/
def read? (s : String) : Option Instant := do
  let (f, rest) ← fields s.toList
  if f.valid ∧ rest = [] then return f.instant else none

def parse (s : String) : Except Fault Instant :=
  match read? s with
  | some t => .ok t
  | none => .error ⟨.malformedData, some
      ⟨"bad timestamp '" ++ s ++ "': ", "input is no RFC 3339 timestamp"⟩⟩

end Timestamp
end ChainIndexer
