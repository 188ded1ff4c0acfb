import ChainIndexer.Proofs.Utf8
import ChainIndexer.Text.Decimal

/-! Decimal text. The text of an integer is its digits, after a minus sign if it is below zero, in
ASCII and without a leading zero. A machine integer is read back from it if it is in range, and
nothing is read if it is not. -/
namespace ChainIndexer

namespace Utf8

def code (c : Char) : UInt8 := UInt8.ofNat c.toNat

theorem toNat_code {c : Char} (ascii : c.toNat < 128) : (code c).toNat = c.toNat :=
  UInt8.toNat_ofNat_of_lt' (Nat.lt_trans ascii (by decide))

variable {cs : List Char}

theorem flatMap_utf8EncodeChar (ascii : ∀ c ∈ cs, c.toNat < 128) :
    cs.flatMap String.utf8EncodeChar = cs.map code := by
  induction cs with
  | nil => rfl
  | cons c cs ih =>
      obtain ⟨first, rest⟩ := List.forall_mem_cons.1 ascii
      have one : String.utf8EncodeChar c = [code c] := by
        rw [String.utf8EncodeChar.eq_1]
        exact if_pos (Nat.le_of_lt_succ first)
      rw [List.flatMap_cons, one, ih rest]
      rfl

theorem encode_ofList (ascii : ∀ c ∈ cs, c.toNat < 128) : encode (.ofList cs) = cs.map code := by
  rw [← flatMap_utf8EncodeChar ascii, encode_ofList_eq]

theorem readStrict_codes (ascii : ∀ c ∈ cs, c.toNat < 128) (done : List Char) :
    readStrict done (cs.map code) = some (done.reverse ++ cs) := by
  induction cs generalizing done with
  | nil => rw [List.map_nil, readStrict, List.append_nil]
  | cons c cs ih =>
      obtain ⟨first, rest⟩ := List.forall_mem_cons.1 ascii
      have taken : head (code c) (cs.map code) = .char c (cs.map code) := by
        have low : code c < 0x80 := by
          rw [UInt8.lt_iff_toNat_lt, toNat_code first]
          exact first
        unfold head
        rw [if_pos low, toNat_code first, Char.ofNat_toNat]
      rw [List.map_cons, readStrict]
      split
      · next read =>
          cases taken.symm.trans read
          rw [ih rest, List.reverse_cons, List.append_assoc]
          rfl
      · next malformed => cases taken.symm.trans malformed

theorem decode?_codes (ascii : ∀ c ∈ cs, c.toNat < 128) :
    decode? (cs.map code) = some (.ofList cs) := by
  rw [decode?, readStrict_codes ascii]
  rfl

end Utf8

namespace Text

variable {cs : List Char}

def Digits (cs : List Char) : Prop := ∀ c ∈ cs, 48 ≤ c.toNat ∧ c.toNat ≤ 57

theorem digits_toDigits (n : Nat) : Digits (Nat.toDigits 10 n) := by
  intro c member
  have digit := Nat.isDigit_of_mem_toDigits (by decide) (by decide) member
  simp only [Char.isDigit, Bool.and_eq_true, decide_eq_true_eq] at digit
  exact digit

theorem Digits.ascii (h : Digits cs) : ∀ c ∈ cs, c.toNat < 128 :=
  fun c member => Nat.lt_of_le_of_lt (h c member).2 (by decide)

/-- No number but zero begins with a zero. -/
theorem toDigits_eq_cons {n : Nat} (positive : 0 < n) :
    ∃ c cs, Nat.toDigits 10 n = c :: cs ∧ c ≠ '0' := by
  induction n using Nat.strongRecOn with
  | ind n ih =>
      rcases Nat.lt_or_ge n 10 with small | large
      · have head : ∀ n < 10, 0 < n → Nat.digitChar n ≠ '0' := by decide
        exact ⟨_, [], Nat.toDigits_of_lt_base small, head n small positive⟩
      · obtain ⟨c, cs, digits, plain⟩ :=
          ih (n / 10) (Nat.div_lt_self positive (by decide)) (Nat.div_pos large (by decide))
        exact ⟨c, cs ++ [(n % 10).digitChar], by
          rw [Nat.toDigits_of_base_le (by decide) large, digits, List.cons_append], plain⟩

theorem toList_toString (n : Int) : (toString n).toList =
    if n < 0 then '-' :: Nat.toDigits 10 n.natAbs else Nat.toDigits 10 n.natAbs := by
  have text (m : Nat) : m.repr.toList = Nat.toDigits 10 m := by
    rw [Nat.repr_eq_ofList_toDigits, String.toList_ofList]
  cases n with
  | ofNat m =>
      refine (text m).trans (if_neg ?_).symm
      exact Int.not_lt.2 (Int.natCast_nonneg m)
  | negSucc m =>
      rw [if_pos (Int.negSucc_lt_zero m)]
      change ("-" ++ (m + 1).repr).toList = _
      rw [String.toList_append, text]
      rfl

theorem mem_toString {n : Int} {c : Char} (member : c ∈ (toString n).toList) :
    c = '-' ∨ 48 ≤ c.toNat ∧ c.toNat ≤ 57 := by
  rw [toList_toString] at member
  split at member
  · exact (List.mem_cons.1 member).imp_right (digits_toDigits _ c)
  · exact .inr (digits_toDigits _ c member)

end Text

namespace IntRange

variable {cs : List Char} {r : IntRange}

theorem contains_iff {n : Int} : r.contains n = true ↔ r.low ≤ n ∧ n ≤ r.high := by
  simp [contains]

theorem readDigits_eq (digits : Text.Digits cs) (n : Nat) :
    readDigits n cs = some (Nat.ofDigitChars 10 cs n) := by
  induction cs generalizing n with
  | nil => rfl
  | cons c cs ih =>
      obtain ⟨first, rest⟩ := List.forall_mem_cons.1 digits
      have digit : Text.digit? c = some (c.toNat - 48) := if_pos first
      rw [readDigits, digit, Nat.ofDigitChars_cons]
      exact ih rest _

theorem readDigits_toDigits (n : Nat) : readDigits 0 (Nat.toDigits 10 n) = some n := by
  rw [readDigits_eq (Text.digits_toDigits n), Nat.ofDigitChars_ten_toDigits]

theorem readSigned_digits (r : IntRange) (digits : Text.Digits cs) (some : cs ≠ []) :
    r.readSigned cs = (readDigits 0 cs).map Int.ofNat := by
  unfold readSigned
  split
  · exact absurd rfl some
  · exact absurd (digits '+' List.mem_cons_self) (by decide)
  · exact absurd (digits '-' List.mem_cons_self) (by decide)
  · rfl

theorem readSigned_minus (r : IntRange) (some : cs ≠ []) : r.readSigned ('-' :: cs) =
    if r.low < 0 then (readDigits 0 cs).map (- Int.ofNat ·) else none := by
  cases cs with
  | nil => exact absurd rfl some
  | cons c cs => rfl

theorem readSigned_toString (r : IntRange) (n : Int) :
    r.readSigned (toString n).toList = if 0 ≤ n ∨ r.low < 0 then some n else none := by
  rw [Text.toList_toString]
  split
  · next negative =>
      have same : - Int.ofNat n.natAbs = n := by
        change - (n.natAbs : Int) = n
        omega
      rw [readSigned_minus r Nat.toDigits_ne_nil, readDigits_toDigits, Option.map_some, same]
      simp only [Int.not_le.2 negative, false_or]
  · next natural =>
      have same : Int.ofNat n.natAbs = n := by
        change (n.natAbs : Int) = n
        omega
      rw [readSigned_digits r (Text.digits_toDigits _) Nat.toDigits_ne_nil, readDigits_toDigits,
        Option.map_some, same, if_pos (.inl (Int.not_lt.1 natural))]

theorem read_toString (r : IntRange) (n : Int) :
    (r.read (toString n)).toOption = if r.low ≤ n ∧ n ≤ r.high then some n else none := by
  rw [read, readSigned_toString]
  by_cases allowed : 0 ≤ n ∨ r.low < 0
  · rw [if_pos allowed]
    change (if r.contains n = true then Except.ok n else .error _).toOption = _
    by_cases inside : r.low ≤ n ∧ n ≤ r.high
    · rw [if_pos (contains_iff.2 inside), if_pos inside]
      rfl
    · rw [if_neg (mt contains_iff.1 inside), if_neg inside]
      rfl
  · rw [if_neg allowed, if_neg (by omega)]
    rfl

end IntRange

end ChainIndexer
