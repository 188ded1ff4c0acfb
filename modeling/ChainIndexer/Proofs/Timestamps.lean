import ChainIndexer.Timestamp

/-! Timestamps name instants of some ten thousand years, so that the milliseconds between two of
them are far from the bounds of a machine integer. -/
namespace ChainIndexer

theorem Text.lt_of_digit? {c : Char} {d : Nat} (read : digit? c = some d) : d < 10 := by
  unfold digit? at read
  split at read
  · rename_i between
    have below : c.toNat ≤ 57 := between.2
    cases read
    omega
  · cases read

namespace Timestamp

/-- A digit that follows a value leaves it below the next power of ten. -/
theorem mul_pow_le {value d : Nat} (digit : d < 10) (n : Nat) :
    (10 * value + d + 1) * Nat.pow 10 n ≤ (value + 1) * Nat.pow 10 (n + 1) := by
  have more : 10 * value + d + 1 ≤ (value + 1) * 10 := by omega
  calc (10 * value + d + 1) * Nat.pow 10 n
    _ ≤ (value + 1) * 10 * Nat.pow 10 n := Nat.mul_le_mul_right _ more
    _ = (value + 1) * (Nat.pow 10 n * 10) := by rw [Nat.mul_assoc, Nat.mul_comm 10]

theorem lt_of_digits {n value k : Nat} {cs rest : List Char}
    (read : digits n value cs = some (k, rest)) : k < (value + 1) * Nat.pow 10 n := by
  induction n generalizing value cs with
  | zero =>
      cases read
      exact Nat.lt_of_lt_of_eq (Nat.lt_succ_self _) (Nat.mul_one _).symm
  | succ n ih =>
      cases cs with
      | nil => cases read
      | cons c cs =>
          obtain ⟨d, digit, read⟩ := Option.bind_eq_some_iff.1 read
          exact Nat.lt_of_lt_of_le (ih read) (mul_pow_le (Text.lt_of_digit? digit) n)

theorem fraction_cons (places value : Nat) (c : Char) (cs : List Char) :
    fraction places value (c :: cs) =
      match Text.digit? c with
      | none => (value * Nat.pow 10 places, c :: cs)
      | some d =>
        match places with
        | 0 => fraction 0 value cs
        | places + 1 => fraction places (10 * value + d) cs := rfl

theorem lt_of_fraction (places value : Nat) (cs : List Char) :
    (fraction places value cs).1 < (value + 1) * Nat.pow 10 places := by
  have stop (places value : Nat) : value * Nat.pow 10 places < (value + 1) * Nat.pow 10 places :=
    Nat.mul_lt_mul_of_pos_right (Nat.lt_succ_self value) (Nat.pow_pos (by decide))
  induction cs generalizing places value with
  | nil => exact stop places value
  | cons c cs ih =>
      rw [fraction_cons]
      cases digit : Text.digit? c with
      | none => exact stop places value
      | some d =>
          cases places with
          -- Beyond the ninth place a digit is skipped, whatever it is.
          | zero => exact ih 0 value
          | succ places =>
              exact Nat.lt_of_lt_of_le (ih places (10 * value + d))
                (mul_pow_le (Text.lt_of_digit? digit) places)

theorem lt_of_nanos {cs rest : List Char} {n : Nat} (read : nanos cs = some (n, rest)) :
    n < Instant.nanosPerSecond := by
  unfold nanos at read
  split at read
  · split at read
    · rename_i c cs _
      have same : fraction 9 0 (c :: cs) = (n, rest) := Option.some.inj read
      have below := lt_of_fraction 9 0 (c :: cs)
      rw [same] at below
      exact below
    · cases read
  · cases read
  · cases read
    decide

theorem le_of_offsetSize {cs rest : List Char} {o : Int} (read : offsetSize cs = some (o, rest)) :
    0 ≤ o ∧ o < 86400 := by
  obtain ⟨⟨hours, cs⟩, _, read⟩ := Option.bind_eq_some_iff.1 read
  obtain ⟨cs, _, read⟩ := Option.bind_eq_some_iff.1 read
  obtain ⟨⟨minutes, cs⟩, _, read⟩ := Option.bind_eq_some_iff.1 read
  dsimp only at read
  split at read
  · cases read
    omega
  · cases read

theorem natAbs_of_offset {cs rest : List Char} {o : Int} (read : offset cs = some (o, rest)) :
    o.natAbs < 86400 := by
  cases cs with
  | nil => cases read
  | cons c cs =>
      simp only [offset] at read
      split at read
      · cases read
        decide
      split at read
      · have size := le_of_offsetSize read
        omega
      split at read
      · obtain ⟨⟨size, _⟩, sized, same⟩ := Option.map_eq_some_iff.1 read
        have size := le_of_offsetSize sized
        cases same
        omega
      · cases read

theorem natAbs_dayNumber {year day : Nat} (month : Nat) (four : year < 10000) (two : day < 100) :
    (dayNumber year month day).natAbs < 4000000 := by
  have months := Nat.mod_lt (month + 9) (by decide : 0 < 12)
  unfold dayNumber
  simp only [Int.fdiv_eq_ediv_of_nonneg _ (by decide : (0 : Int) ≤ 4),
    Int.fdiv_eq_ediv_of_nonneg _ (by decide : (0 : Int) ≤ 100),
    Int.fdiv_eq_ediv_of_nonneg _ (by decide : (0 : Int) ≤ 400)]
  split <;> omega

end Timestamp

/-- Instants of some ten thousand years. A leap second has nanoseconds for two. -/
structure Instant.Near (t : Instant) : Prop where
  seconds : t.seconds.natAbs < 400000000000
  nanos : t.nanos < 2 * nanosPerSecond

theorem Timestamp.near_instant {f : Fields} {cs rest : List Char}
    (read : fields cs = some (f, rest)) (valid : f.valid = true) : f.instant.Near := by
  obtain ⟨⟨year, cs⟩, year', read⟩ := Option.bind_eq_some_iff.1 read
  obtain ⟨cs, _, read⟩ := Option.bind_eq_some_iff.1 read
  obtain ⟨⟨month, cs⟩, _, read⟩ := Option.bind_eq_some_iff.1 read
  obtain ⟨cs, _, read⟩ := Option.bind_eq_some_iff.1 read
  obtain ⟨⟨day, cs⟩, day', read⟩ := Option.bind_eq_some_iff.1 read
  obtain ⟨cs, _, read⟩ := Option.bind_eq_some_iff.1 read
  obtain ⟨⟨hour, cs⟩, _, read⟩ := Option.bind_eq_some_iff.1 read
  obtain ⟨cs, _, read⟩ := Option.bind_eq_some_iff.1 read
  obtain ⟨⟨minute, cs⟩, _, read⟩ := Option.bind_eq_some_iff.1 read
  obtain ⟨cs, _, read⟩ := Option.bind_eq_some_iff.1 read
  obtain ⟨⟨second, cs⟩, _, read⟩ := Option.bind_eq_some_iff.1 read
  obtain ⟨⟨nanos, cs⟩, nanos', read⟩ := Option.bind_eq_some_iff.1 read
  obtain ⟨⟨offset, cs⟩, offset', read⟩ := Option.bind_eq_some_iff.1 read
  cases read
  have days := natAbs_dayNumber month (lt_of_digits year') (lt_of_digits day')
  have shift := natAbs_of_offset offset'
  have beyond := lt_of_nanos nanos'
  have clock : hour < 24 ∧ minute < 60 ∧ second ≤ 60 := by
    simp only [Fields.valid, Bool.and_eq_true, decide_eq_true_eq] at valid
    omega
  refine ⟨?_, ?_⟩
  · simp only [Fields.instant, Instant.secondsPerDay]
    split <;> omega
  · simp only [Fields.instant]
    split <;> omega

theorem Timestamp.near_of_parse {s : String} {t : Instant} (read : parse s = .ok t) : t.Near := by
  unfold parse at read
  split at read
  · rename_i named
    cases read
    obtain ⟨⟨f, rest⟩, named', made⟩ := Option.bind_eq_some_iff.1 named
    dsimp only at made
    split at made
    · rename_i whole
      cases made
      exact near_instant named' whole.1
    · cases made
  · cases read

namespace Instant

variable {early late : Instant} {millis : Int}

/-- Seconds decide, and nanoseconds between equal ones, also those of a leap second. -/
def NotAfter (early late : Instant) : Prop :=
  early.seconds < late.seconds ∨ early.seconds = late.seconds ∧ early.nanos ≤ late.nanos

theorem le_iff : early.le late = true ↔ early.NotAfter late := by
  simp [le, NotAfter]

/-- The leap second to count between two instants, one of which is in it. On which side of the other
instant it lies is told from the times of day, whatever days these are of. -/
inductive Leap (early late : Instant) : Int → Prop where
  | entered (order : early.seconds % 86400 < late.seconds % 86400)
      (inside : 1000000000 ≤ early.nanos) : Leap early late 1
  | left (order : late.seconds % 86400 < early.seconds % 86400)
      (inside : 1000000000 ≤ late.nanos) : Leap early late (-1)
  | none (unentered : ¬ (early.seconds % 86400 < late.seconds % 86400 ∧ 1000000000 ≤ early.nanos))
      (unleft : ¬ (late.seconds % 86400 < early.seconds % 86400 ∧ 1000000000 ≤ late.nanos)) :
      Leap early late 0

/-- The nanoseconds from one instant to the other are so many milliseconds and a rest of less than
one. It has their sign, so that a time that runs back is rounded towards zero as well. -/
def Elapsed (early late : Instant) (millis : Int) : Prop :=
  ∃ leap rest : Int, early.Leap late leap ∧
    (late.seconds - early.seconds + leap) * 1000000000 + (late.nanos - early.nanos) =
      millis * 1000000 + rest ∧
    rest.natAbs < 1000000 ∧ (0 < millis → 0 ≤ rest) ∧ (millis < 0 → rest ≤ 0)

theorem leap_iff {leap : Int} : early.Leap late leap ↔ leap = late.leapBetween early := by
  unfold leapBetween nanosPerSecond secondsPerDay
  constructor
  · rintro (⟨order, inside⟩ | ⟨order, inside⟩ | ⟨unentered, unleft⟩) <;> grind
  · rintro rfl
    dsimp only
    split
    · rename_i order
      split
      · rename_i inside
        exact .entered order inside
      · exact .none (by omega) (by omega)
    split
    · rename_i order
      split
      · rename_i inside
        exact .left order inside
      · exact .none (by omega) (by omega)
    · exact .none (by omega) (by omega)

theorem eq_tdiv_iff {n : Int} : millis = n.tdiv 1000000 ↔
    ∃ rest : Int, n = millis * 1000000 + rest ∧
      rest.natAbs < 1000000 ∧ (0 < millis → 0 ≤ rest) ∧ (millis < 0 → rest ≤ 0) := by
  have unit : Int.sign 1000000 = 1 := rfl
  rw [Int.tdiv_eq_ediv, unit]
  constructor
  · intro quotient
    refine ⟨n - millis * 1000000, by omega, ?_⟩
    split at quotient <;> omega
  · rintro ⟨rest, rfl, small, forth, back⟩
    split <;> omega

theorem elapsed_iff : early.Elapsed late millis ↔ millis = late.millisSince early := by
  unfold millisSince
  rw [eq_tdiv_iff]
  constructor
  · rintro ⟨leap, rest, between, total, rounded⟩
    obtain rfl := leap_iff.1 between
    exact ⟨rest, total, rounded⟩
  · rintro ⟨rest, total, rounded⟩
    exact ⟨_, rest, leap_iff.2 rfl, total, rounded⟩

theorem Elapsed.unique {millis' : Int} (h : early.Elapsed late millis)
    (h' : early.Elapsed late millis') : millis = millis' :=
  (elapsed_iff.1 h).trans (elapsed_iff.1 h').symm

end Instant

/-- The milliseconds between two of these instants fit into a machine integer. -/
theorem Instant.toInt_millisSince {late early : Instant} (l : late.Near) (e : early.Near) :
    (Int64.ofInt (late.millisSince early)).toInt = late.millisSince early := by
  have leap : (late.leapBetween early).natAbs ≤ 1 := by
    unfold leapBetween
    grind
  have size : (late.millisSince early).natAbs < 1000000000000000 := by
    obtain ⟨lateSeconds, lateNanos⟩ := l
    obtain ⟨earlySeconds, earlyNanos⟩ := e
    unfold millisSince
    unfold nanosPerSecond at *
    rw [Int.natAbs_tdiv]
    refine Nat.div_lt_of_lt_mul ?_
    change _ < 1000000 * 1000000000000000
    omega
  exact Int64.toInt_ofInt_of_le (by omega) (by omega)

end ChainIndexer
