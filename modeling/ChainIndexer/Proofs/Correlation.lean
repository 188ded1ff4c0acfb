import ChainIndexer.Operators
import ChainIndexer.Proofs.Hex

/-! Correlation. An operator is listed for raw bytes, written as hexadecimal text by hand: in either
case, and with blanks around it. The text is compared without being read, but it is found for
exactly the bytes that it stands for. -/
namespace ChainIndexer

namespace Text

variable {cs before digits after : List Char}

def Blank (cs : List Char) : Prop := ∀ c ∈ cs, isBlank c = true

theorem blank_takeWhile (cs : List Char) : Blank (cs.takeWhile isBlank) :=
  fun _ member => List.all_eq_true.1 List.all_takeWhile _ member

theorem exists_trim (cs : List Char) :
    ∃ before after, cs = before ++ trim cs ++ after ∧ Blank before ∧ Blank after := by
  let front := trimFront cs
  refine ⟨cs.takeWhile isBlank, (front.reverse.takeWhile isBlank).reverse, ?_,
    blank_takeWhile cs, ?_⟩
  · have back : trim cs ++ (front.reverse.takeWhile isBlank).reverse = front := by
      change (front.reverse.dropWhile isBlank).reverse ++ _ = _
      rw [← List.reverse_append, List.takeWhile_append_dropWhile, List.reverse_reverse]
    rw [List.append_assoc, back]
    exact List.takeWhile_append_dropWhile.symm
  · intro c member
    exact blank_takeWhile front.reverse c (List.mem_reverse.1 member)

theorem dropWhile_solid (solid : ∀ c ∈ digits, isBlank c = false) :
    digits.dropWhile isBlank = digits := by
  cases digits with
  | nil => rfl
  | cons c cs => exact List.dropWhile_cons_of_neg (by simp [solid c List.mem_cons_self])

theorem trim_surrounded (front : Blank before) (back : Blank after)
    (solid : ∀ c ∈ digits, isBlank c = false) : trim (before ++ digits ++ after) = digits := by
  unfold trim trimFront trimBack
  rw [List.append_assoc, List.dropWhile_append_of_pos front]
  cases digits with
  | nil =>
      have none : after.dropWhile isBlank = [] := by
        rw [← List.append_nil after, List.dropWhile_append_of_pos back]
        rfl
      rw [List.nil_append, none]
      rfl
  | cons c cs =>
      have first : ¬ isBlank c = true := by simp [solid c List.mem_cons_self]
      have back' : ∀ c ∈ after.reverse, isBlank c = true := fun c member =>
        back c (List.mem_reverse.1 member)
      have solid' : ∀ c' ∈ (c :: cs).reverse, isBlank c' = false := fun c' member =>
        solid c' (List.mem_reverse.1 member)
      rw [List.cons_append, List.dropWhile_cons_of_neg first, ← List.cons_append,
        List.reverse_append, List.dropWhile_append_of_pos back', dropWhile_solid solid',
        List.reverse_reverse]

theorem toNat_toLower (c : Char) :
    c.toLower.toNat = if 65 ≤ c.toNat ∧ c.toNat ≤ 90 then c.toNat + 32 else c.toNat := by
  unfold Char.toLower
  split
  · rename_i upper
    have range : 65 ≤ c.toNat ∧ c.toNat ≤ 90 := upper
    rw [if_pos range]
    change (c.val + 32).toNat = c.toNat + 32
    rw [UInt32.toNat_add]
    exact Nat.mod_eq_of_lt (by change c.toNat + 32 < 4294967296; omega)
  · rename_i other
    exact (if_neg other).symm

end Text

namespace Hex

open ConsensusAddress (foldCase)

theorem digitValue?_eq_some_iff {c : Char} {n : Nat} : digitValue? c = some n ↔
    n < 10 ∧ c.toNat = 48 + n ∨ 10 ≤ n ∧ n < 16 ∧ (c.toNat = 55 + n ∨ c.toNat = 87 + n) := by
  have decimal : '0' ≤ c ∧ c ≤ '9' ↔ 48 ≤ c.toNat ∧ c.toNat ≤ 57 := .rfl
  have upper : 'A' ≤ c ∧ c ≤ 'F' ↔ 65 ≤ c.toNat ∧ c.toNat ≤ 70 := .rfl
  have lower : 'a' ≤ c ∧ c ≤ 'f' ↔ 97 ≤ c.toNat ∧ c.toNat ≤ 102 := .rfl
  simp only [digitValue?, decimal, upper, lower]
  grind

theorem isBlank_digit {c : Char} {n : Nat} (read : digitValue? c = some n) :
    Text.isBlank c = false := by
  have range := digitValue?_eq_some_iff.1 read
  simp only [Text.isBlank, Text.blankRanges, List.any_cons, List.any_nil, Bool.or_eq_false_iff,
    Bool.and_eq_false_iff, decide_eq_false_iff_not, and_true]
  omega

theorem toNat_upperDigit : ∀ n < 16,
    (upperDigit n).toNat = if n < 10 then 48 + n else 55 + n := by decide

theorem toLower_eq_iff {n : Nat} (hex : n < 16) (c : Char) :
    (upperDigit n).toLower = c.toLower ↔ digitValue? c = some n := by
  rw [← Char.toNat_inj, Text.toNat_toLower, Text.toNat_toLower, toNat_upperDigit n hex,
    digitValue?_eq_some_iff]
  grind

theorem solid_of_decodeChars? {cs : List Char} {bs : Bytes} (read : decodeChars? cs = some bs) :
    ∀ c ∈ cs, Text.isBlank c = false := by
  induction cs using decodeChars?.induct generalizing bs with
  | case1 => exact nofun
  | case2 => cases read
  | case3 high low rest ih =>
      obtain ⟨h, high', read⟩ := Option.bind_eq_some_iff.1 read
      obtain ⟨l, low', read⟩ := Option.bind_eq_some_iff.1 read
      obtain ⟨bs', rest', _⟩ := Option.bind_eq_some_iff.1 read
      simp only [List.mem_cons, forall_eq_or_imp]
      exact ⟨isBlank_digit high', isBlank_digit low', ih rest'⟩

/-- Texts that differ from what is written for bytes in case only are those that stand for them. -/
theorem foldCase_digits_iff {bs : Bytes} {cs : List Char} :
    foldCase (digits upperDigit bs) = foldCase cs ↔ decodeChars? cs = some bs := by
  -- By the text and not by the bytes, since a text of odd length stands for none.
  induction cs using decodeChars?.induct generalizing bs with
  | case1 => cases bs <;> simp [foldCase, digits, decodeChars?]
  | case2 => cases bs <;> simp [foldCase, digits, decodeChars?]
  | case3 high low rest ih =>
      cases bs with
      | nil =>
          refine ⟨fun same => absurd same.symm (List.cons_ne_nil _ _), fun read => ?_⟩
          obtain ⟨h, _, read⟩ := Option.bind_eq_some_iff.1 read
          obtain ⟨l, _, read⟩ := Option.bind_eq_some_iff.1 read
          obtain ⟨bs', _, read⟩ := Option.bind_eq_some_iff.1 read
          cases read
      | cons b bs =>
          have high' : b.toNat / 16 < 16 := Nat.div_lt_of_lt_mul b.toNat_lt
          have low' : b.toNat % 16 < 16 := Nat.mod_lt _ (by decide)
          change (upperDigit (b.toNat / 16)).toLower :: (upperDigit (b.toNat % 16)).toLower ::
            foldCase (digits upperDigit bs) = high.toLower :: low.toLower :: foldCase rest ↔ _
          rw [List.cons.injEq, List.cons.injEq, toLower_eq_iff high', toLower_eq_iff low', ih]
          constructor
          · rintro ⟨h, l, read⟩
            rw [decodeChars?, h, l, read]
            exact congrArg (fun b => some (b :: bs)) (ofNat_halves b)
          · intro read
            obtain ⟨h, h', read⟩ := Option.bind_eq_some_iff.1 read
            obtain ⟨l, l', read⟩ := Option.bind_eq_some_iff.1 read
            obtain ⟨bs', rest', read⟩ := Option.bind_eq_some_iff.1 read
            cases read
            have hexes := And.intro (digitValue?_eq_some_iff.1 h') (digitValue?_eq_some_iff.1 l')
            have whole : (UInt8.ofNat (16 * h + l)).toNat = 16 * h + l :=
              UInt8.toNat_ofNat_of_lt' (by change _ < 256; omega)
            have high'' : h = (16 * h + l) / 16 := by omega
            have low'' : l = (16 * h + l) % 16 := by omega
            rw [whole, ← high'', ← low'']
            exact ⟨h', l', rest'⟩

end Hex
/-- The entry is for raw bytes: blanks aside, it holds the bytes as hexadecimal text. -/
def Operator.Lists (o : Operator) (raw : Bytes) : Prop :=
  ∃ before digits after, o.rawAddress.toList = before ++ digits ++ after ∧
    Text.Blank before ∧ Text.Blank after ∧ Hex.decodeChars? digits = some raw

theorem matchesHex_iff {o : Operator} {raw : Bytes} :
    (ConsensusAddress.ofRaw raw).matchesHex o.rawAddress = true ↔ o.Lists raw := by
  have compared : (ConsensusAddress.ofRaw raw).matchesHex o.rawAddress = true ↔
      Hex.decodeChars? (Text.trim o.rawAddress.toList) = some raw := by
    rw [← Hex.foldCase_digits_iff]
    simp [ConsensusAddress.matchesHex, ConsensusAddress.ofRaw, Hex.encodeUpper]
  rw [compared]
  constructor
  · intro read
    obtain ⟨before, after, split, front, back⟩ := Text.exists_trim o.rawAddress.toList
    exact ⟨before, _, after, split, front, back, read⟩
  · rintro ⟨before, digits, after, split, front, back, read⟩
    rw [split, Text.trim_surrounded front back (Hex.solid_of_decodeChars? read)]
    exact read

/-- The first entry for raw bytes. -/
def FirstListing (operators : List Operator) (raw : Bytes) (o : Operator) : Prop :=
  ∃ earlier later, operators = earlier ++ o :: later ∧ o.Lists raw ∧
    ∀ o' ∈ earlier, ¬ o'.Lists raw

theorem findOperator_eq_some_iff {operators : List Operator} {raw : Bytes} {o : Operator} :
    findOperator operators (.ofRaw raw) = some o ↔ FirstListing operators raw o := by
  unfold findOperator
  rw [List.find?_eq_some_iff_append, matchesHex_iff]
  constructor
  · rintro ⟨listed, earlier, later, split, passed⟩
    refine ⟨earlier, later, split, listed, fun o' member listed' => ?_⟩
    have fails := passed o' member
    rw [matchesHex_iff.2 listed'] at fails
    exact Bool.noConfusion fails
  · rintro ⟨earlier, later, split, listed, passed⟩
    refine ⟨listed, earlier, later, split, fun o' member => ?_⟩
    rw [Bool.not_eq_true', ← Bool.not_eq_true, matchesHex_iff]
    exact passed o' member

theorem findOperator_eq_none_iff {operators : List Operator} {raw : Bytes} :
    findOperator operators (.ofRaw raw) = none ↔ ∀ o ∈ operators, ¬ o.Lists raw := by
  simp only [findOperator, List.find?_eq_none, matchesHex_iff]

/-- Validators of a height and the rows that are made for them, in order: one of each kind for a
validator that is listed, with what the first entry says of its operator, and none for others. -/
inductive Correlation (operators : List Operator) (height : Height) :
    List ChainValidator → List Validator → List ValidatorDescription → Prop where
  | nil : Correlation operators height [] [] []
  | listed {v : ChainValidator} {o : Operator} {vs : List ChainValidator} {rows : List Validator}
      {descriptions : List ValidatorDescription} (first : FirstListing operators v.address o)
      (rest : Correlation operators height vs rows descriptions) :
      Correlation operators height (v :: vs)
        ({ consensusAddress := .ofRaw v.address, publicKey := Hex.encodeLower v.publicKey
           operatorAddress := o.operatorAddress, height } :: rows)
        ({ operatorAddress := o.operatorAddress, consensusAddress := .ofRaw v.address
           moniker := o.moniker, identity := o.identity, avatarUrl := o.avatarUrl
           details := o.description, height } :: descriptions)
  | unlisted {v : ChainValidator} {vs : List ChainValidator} {rows : List Validator}
      {descriptions : List ValidatorDescription} (none : ∀ o ∈ operators, ¬ o.Lists v.address)
      (rest : Correlation operators height vs rows descriptions) :
      Correlation operators height (v :: vs) rows descriptions

theorem correlation_correlate (operators : List Operator) (height : Height)
    (vs : List ChainValidator) :
    Correlation operators height vs (correlate operators ⟨height, vs⟩).validators
      (correlate operators ⟨height, vs⟩).descriptions := by
  induction vs with
  | nil => exact .nil
  | cons v vs ih =>
      simp only [correlate, ValidatorSet.operated, List.filterMap_cons] at ih ⊢
      cases found : findOperator operators (.ofRaw v.address) with
      | none => exact .unlisted (findOperator_eq_none_iff.1 found) ih
      | some o => exact .listed (findOperator_eq_some_iff.1 found) ih

theorem Correlation.length_eq {operators : List Operator} {height : Height}
    {vs : List ChainValidator} {rows : List Validator} {descriptions : List ValidatorDescription}
    (h : Correlation operators height vs rows descriptions) :
    rows.length = descriptions.length := by
  induction h with
  | nil => rfl
  | listed _ _ ih => exact congrArg (· + 1) ih
  | unlisted _ _ ih => exact ih

/-- Validators are correlated with operators by their raw addresses. Two lists of one length have a
row each, in the order of the set, for exactly those validators that an entry is for, with what the
first such entry says. Since an address has all of the raw bytes, validators with different ones
never share a row, and a validator is found for raw bytes if and only if one with their address is
in the set. -/
theorem correlate_by_raw_address (operators : List Operator) (set : ValidatorSet) :
    Correlation operators set.height set.validators (correlate operators set).validators
        (correlate operators set).descriptions ∧
      (correlate operators set).validators.length =
        (correlate operators set).descriptions.length ∧
      (∀ raw raw', ConsensusAddress.ofRaw raw = .ofRaw raw' → raw = raw') ∧
      (∀ v ∈ set.validators, ∀ v' ∈ set.validators, v.address ≠ v'.address →
        (∀ row ∈ (correlate operators set).validators,
          ¬ (row.consensusAddress = .ofRaw v.address ∧
            row.consensusAddress = .ofRaw v'.address)) ∧
        ∀ row ∈ (correlate operators set).descriptions,
          ¬ (row.consensusAddress = .ofRaw v.address ∧
            row.consensusAddress = .ofRaw v'.address)) ∧
      ∀ raw, (∃ v, set.findByAddress raw = some v) ↔
        ∃ v ∈ set.validators, ConsensusAddress.ofRaw v.address = .ofRaw raw := by
  have correlation := correlation_correlate operators set.height set.validators
  have injective {raw raw' : Bytes} (same : ConsensusAddress.ofRaw raw = .ofRaw raw') :
      raw = raw' := ConsensusAddress.ofRaw_inj.1 same
  refine ⟨correlation, correlation.length_eq, fun _ _ => injective, ?_, ?_⟩
  · intro v _ v' _ different
    exact ⟨fun _ _ both => different (injective (both.1.symm.trans both.2)),
      fun _ _ both => different (injective (both.1.symm.trans both.2))⟩
  · intro raw
    simp only [ValidatorSet.findByAddress, ConsensusAddress.ofRaw_inj]
    rw [← Option.isSome_iff_exists, List.find?_isSome]
    simp

/-- The first entry with the bytes counts, whatever the case of its letters. -/
example : (correlate
    [{ rawAddress := "0a1", operatorAddress := "odd", moniker := "" },
      { rawAddress := " 0a1B\n", operatorAddress := "first", moniker := "" },
      { rawAddress := "0A1B", operatorAddress := "second", moniker := "" }]
    ⟨5, [⟨[10, 27], [1], 1, 0⟩, ⟨[10], [2], 1, 0⟩]⟩).validators =
      [⟨⟨"0A1B"⟩, "01", "first", 5⟩] := by decide +kernel

end ChainIndexer
