import ChainIndexer.Json.Decoder
import ChainIndexer.Proofs.Decimal
import ChainIndexer.Proofs.Steps

/-! Integers in JSON, as numbers and as text. -/
namespace ChainIndexer.Json

open Utf8 (code)

namespace Numeral

variable {ds : List Nat} {n : Nat}

theorem le_foldl (n : Nat) (ds : List Nat) : n ≤ ds.foldl (10 * · + ·) n := by
  induction ds generalizing n with
  | nil => exact Nat.le_refl n
  | cons d ds ih => exact Nat.le_trans (by omega) (ih (10 * n + d))

theorem absorb_of_lt (fits : ds.foldl (10 * · + ·) n < UInt64.size) :
    absorb n ds = (ds.foldl (10 * · + ·) n, []) := by
  induction ds generalizing n with
  | nil => rfl
  | cons d ds ih =>
      have first : 10 * n + d < UInt64.size := Nat.lt_of_le_of_lt (le_foldl _ ds) fits
      rw [absorb, if_pos first, ih fits]
      rfl

theorem absorb_of_le (start : n < UInt64.size) (exceeds : UInt64.size ≤ ds.foldl (10 * · + ·) n) :
    ∃ m d rest, absorb n ds = (m, d :: rest) := by
  induction ds generalizing n with
  | nil => exact absurd start (Nat.not_lt.2 exceeds)
  | cons d ds ih =>
      rw [absorb]
      split
      · next fits => exact ih fits exceeds
      · exact ⟨n, d, ds, rfl⟩

def digitsOf (n : Nat) : List Nat := (Nat.toDigits 10 n).map fun c => c.toNat - 48

theorem foldl_digitsOf (n : Nat) : (digitsOf n).foldl (10 * · + ·) 0 = n := by
  rw [digitsOf, List.foldl_map]
  exact Nat.ofDigitChars_eq_foldl.symm.trans Nat.ofDigitChars_ten_toDigits

def ofInt (n : Int) : Numeral where
  negative := n < 0
  whole := digitsOf n.natAbs
  fraction := none
  exponent := none

/-- A numeral that writes no integer of sixty-four bits stands for a double or for nothing. -/
theorem value?_bind_integer? (n : Numeral) :
    n.value?.bind Number.integer? = n.integer?.bind Number.integer? := by
  unfold value?
  cases n.integer? with
  | some i => rfl
  | none => cases n.double? <;> rfl

def range : IntRange := ⟨(IntRange.signed 64).low, (IntRange.unsigned 64).high⟩

section Integer

variable {numeral : Numeral} {m d : Nat} {rest : List Nat}

theorem integer?_of_absorbed (fraction : numeral.fraction = none)
    (exponent : numeral.exponent = none) (absorbed : absorb 0 numeral.whole = (m, [])) :
    numeral.integer? =
      if numeral.negative then
        if 0 < m ∧ m ≤ Nat.pow 2 63 then some (.negative (Int64.ofInt (-m))) else none
      else some (.natural (UInt64.ofNat m)) := by
  unfold integer?
  rw [fraction, exponent, absorbed]
  rfl

theorem integer?_of_left (left : absorb 0 numeral.whole = (m, d :: rest)) :
    numeral.integer? = none := by
  unfold integer?
  rw [left]
  split <;> rfl

end Integer

/-- An integer of sixty-four bits can be written and read again, no other can. -/
theorem value?_ofInt (n : Int) : (ofInt n).value?.bind Number.integer? =
    if range.low ≤ n ∧ n ≤ range.high then some n else none := by
  rw [value?_bind_integer?]
  change _ = if -9223372036854775808 ≤ n ∧ n ≤ 18446744073709551615 then some n else none
  rcases Nat.lt_or_ge n.natAbs UInt64.size with fits | exceeds
  · have absorbed : absorb 0 (ofInt n).whole = (n.natAbs, []) := by
      change absorb 0 (digitsOf n.natAbs) = _
      rw [absorb_of_lt ((foldl_digitsOf _).symm ▸ fits), foldl_digitsOf]
    rw [integer?_of_absorbed rfl rfl absorbed]
    change n.natAbs < 18446744073709551616 at fits
    change (if decide (n < 0) = true then if 0 < n.natAbs ∧ n.natAbs ≤ 9223372036854775808 then _
      else none else _ : Option Number).bind _ = _
    by_cases below : n < 0
    · have same : -(n.natAbs : Int) = n := by omega
      rw [if_pos (decide_eq_true below), same]
      by_cases low : -9223372036854775808 ≤ n
      · rw [if_pos ⟨by omega, by omega⟩, if_pos ⟨low, by omega⟩]
        exact congrArg some (Int64.toInt_ofInt_of_le low (by omega))
      · rw [if_neg (by omega), if_neg fun h => low h.1]
        rfl
    · rw [if_neg (by simpa using below), if_pos ⟨by omega, by omega⟩]
      change some ((UInt64.ofNat n.natAbs).toNat : Int) = some n
      rw [UInt64.toNat_ofNat_of_lt' fits]
      exact congrArg some (by omega)
  · obtain ⟨m, d, rest, left⟩ := absorb_of_le (n := 0) (by decide)
      ((foldl_digitsOf n.natAbs).symm ▸ exceeds)
    change 18446744073709551616 ≤ n.natAbs at exceeds
    rw [integer?_of_left left, if_neg (by omega)]
    rfl

theorem validWhole_digitsOf (n : Nat) : validWhole (digitsOf n) = true := by
  rcases Nat.eq_zero_or_pos n with rfl | positive
  · rfl
  · obtain ⟨c, cs, digits, plain⟩ := Text.toDigits_eq_cons positive
    have first := Text.digits_toDigits n c (digits ▸ List.mem_cons_self)
    rw [digitsOf, digits]
    cases cs with
    | nil => rfl
    | cons c' cs =>
        have other : c.toNat ≠ 48 := fun same => plain (Char.toNat_inj.1 same)
        change (c.toNat - 48 != 0) = true
        simp only [bne_iff_ne]
        omega

theorem isDigit_code {c : Char} (digit : 48 ≤ c.toNat ∧ c.toNat ≤ 57) :
    isDigit (code c) = true := by
  simp only [isDigit, Bool.and_eq_true, decide_eq_true_eq, UInt8.le_iff_toNat_le,
    Utf8.toNat_code (Nat.lt_of_le_of_lt digit.2 (by decide))]
  exact digit

theorem takeDigits_codes {cs : List Char} (digits : Text.Digits cs) :
    takeDigits (cs.map code) = (cs.map fun c => c.toNat - 48, []) := by
  have all : ∀ b ∈ cs.map code, isDigit b = true := by
    intro b member
    obtain ⟨c, listed, rfl⟩ := List.mem_map.1 member
    exact isDigit_code (digits c listed)
  have values : (cs.map code).map digitValue = cs.map fun c => c.toNat - 48 := by
    rw [List.map_map]
    refine List.map_congr_left fun c member => ?_
    change (code c).toNat - 48 = c.toNat - 48
    rw [Utf8.toNat_code (digits.ascii c member)]
  have taken : (cs.map code ++ []).takeWhile isDigit = cs.map code ++ [].takeWhile isDigit :=
    List.takeWhile_append_of_pos all
  have left : (cs.map code ++ []).dropWhile isDigit = [].dropWhile isDigit :=
    List.dropWhile_append_of_pos all
  rw [List.append_nil, List.takeWhile_nil, List.append_nil] at taken
  rw [List.append_nil, List.dropWhile_nil] at left
  rw [takeDigits, taken, left, values]

section Whole

variable {cs : List Char} (digits : Text.Digits cs)
include digits

theorem ofBytes?_minus (valid : validWhole (cs.map fun c => c.toNat - 48) = true) :
    ofBytes? (0x2D :: cs.map code) =
      some ⟨true, cs.map fun c => c.toNat - 48, none, none⟩ := by
  unfold ofBytes?
  simp only [takeDigits_codes digits]
  rw [if_pos valid]
  rfl

theorem ofBytes?_codes (valid : validWhole (cs.map fun c => c.toNat - 48) = true) :
    ofBytes? (cs.map code) = some ⟨false, cs.map fun c => c.toNat - 48, none, none⟩ := by
  unfold ofBytes?
  split
  next unsigned =>
    split at unsigned
    · next minus =>
        obtain ⟨c, listed, same⟩ := List.mem_map.1 (minus ▸ List.mem_cons_self)
        have range := digits c listed
        have value := Utf8.toNat_code (digits.ascii c listed)
        rw [same] at value
        exact absurd (value ▸ range.1) (by decide)
    · cases unsigned
      rw [takeDigits_codes digits]
      dsimp only
      rw [if_pos valid]
      rfl

end Whole

theorem ofBytes?_toString (n : Int) :
    ofBytes? ((toString n).toList.map code) = some (ofInt n) := by
  have digits := Text.digits_toDigits n.natAbs
  have valid := validWhole_digitsOf n.natAbs
  rw [Text.toList_toString]
  unfold ofInt
  split
  · next negative =>
      rw [decide_eq_true negative]
      exact ofBytes?_minus digits valid
  · next natural =>
      rw [decide_eq_false natural]
      exact ofBytes?_codes digits valid

end Numeral

namespace Lexer

/-- A byte that goes on with a numeral, and that stands for itself in a string. -/
structure Plain (b : UInt8) : Prop where
  blank : isBlank b = false
  letter : isLetter b = false
  numeral : isNumeral b = true
  quote : b ≠ 0x22
  escape : b ≠ 0x5C
  control : ¬ b < 0x20

theorem plain_minus : Plain 0x2D := ⟨rfl, rfl, rfl, by decide, by decide, by decide⟩

theorem plain_digit {b : UInt8} (digit : Numeral.isDigit b = true) : Plain b := by
  have range : 48 ≤ b.toNat ∧ b.toNat ≤ 57 := by
    simp only [Numeral.isDigit, Bool.and_eq_true, decide_eq_true_eq, UInt8.le_iff_toNat_le]
      at digit
    exact digit
  have apart {a : UInt8} (outside : ¬ (48 ≤ a.toNat ∧ a.toNat ≤ 57)) : b ≠ a :=
    fun same => outside (same ▸ range)
  refine ⟨?_, ?_, ?_, apart (by decide), apart (by decide), ?_⟩
  · simp [isBlank, apart (a := 0x20) (by decide), apart (a := 0x0A) (by decide),
      apart (a := 0x0D) (by decide), apart (a := 0x09) (by decide)]
  · have above : ¬ (0x61 : UInt8) ≤ b := by
      rw [UInt8.le_iff_toNat_le]
      exact Nat.not_le.2 (Nat.lt_of_le_of_lt range.2 (by decide))
    simp [isLetter, above]
  · simp [isNumeral, digit]
  · rw [UInt8.lt_iff_toNat_lt]
    exact Nat.not_lt.2 (Nat.le_trans (by decide) range.1)

variable {bs : Bytes} {ts : List Token}

theorem steps_numeral (plain : ∀ b ∈ bs, Plain b) (characters : Bytes) :
    steps (.numeral characters, ts) bs = ((.numeral (bs.reverse ++ characters), ts), true) := by
  induction bs generalizing characters with
  | nil => rfl
  | cons b bs ih =>
      obtain ⟨first, rest⟩ := List.forall_mem_cons.1 plain
      have goes : step (.numeral characters, ts) b = some (.numeral (b :: characters), ts) :=
        if_pos first.numeral
      rw [steps, goes, List.reverse_cons, List.append_assoc]
      exact ih rest _

theorem steps_string (plain : ∀ b ∈ bs, Plain b) (pieces : List Piece) :
    steps (.string pieces, ts) (bs ++ [0x22]) =
      ((.nothing, .text (Piece.text? (pieces.reverse ++ bs.map .byte)) :: ts), true) := by
  induction bs generalizing pieces with
  | nil =>
      rw [List.map_nil, List.append_nil]
      rfl
  | cons b bs ih =>
      obtain ⟨first, rest⟩ := List.forall_mem_cons.1 plain
      have goes : step (.string pieces, ts) b = some (.string (.byte b :: pieces), ts) := by
        rw [step, if_neg first.quote, if_neg first.escape, if_neg first.control]
      rw [List.cons_append, steps, goes]
      refine (ih rest _).trans ?_
      rw [List.reverse_cons, List.append_assoc]
      rfl

end Lexer

theorem Piece.bytes?_map_byte (bs done : Bytes) :
    bytes?.go done (bs.map .byte) = some (done.reverse ++ bs) := by
  induction bs generalizing done with
  | nil => exact congrArg some (List.append_nil _).symm
  | cons b bs ih =>
      refine (ih (b :: done)).trans ?_
      rw [List.reverse_cons, List.append_assoc]
      rfl

namespace Token

variable {bs : Bytes}

theorem ofBytes_numeral {numeral : Numeral} (plain : ∀ b ∈ bs, Lexer.Plain b)
    (read : Numeral.ofBytes? bs = some numeral) :
    ofBytes bs = ([.number numeral.value?], true) := by
  cases bs with
  | nil => cases read
  | cons b bs =>
      obtain ⟨first, rest⟩ := List.forall_mem_cons.1 plain
      have goes : Lexer.step (.nothing, []) b = some (.numeral [b], []) := by
        change Lexer.start [] b = _
        rw [Lexer.start, first.blank, first.letter, first.numeral, if_neg first.quote]
        rfl
      have closed : Lexer.close (.numeral (bs.reverse ++ [b]), []) =
          some [.number numeral.value?] := by
        have whole : (bs.reverse ++ [b]).reverse = b :: bs := by simp
        rw [Lexer.close, whole, read]
        rfl
      rw [ofBytes, Lexer.steps, goes]
      dsimp only
      rw [Lexer.steps_numeral rest]
      dsimp only
      rw [closed]
      rfl

theorem ofBytes_quoted (plain : ∀ b ∈ bs, Lexer.Plain b) :
    ofBytes (0x22 :: (bs ++ [0x22])) = ([.text (Utf8.decode? bs)], true) := by
  have text : Piece.text? (bs.map .byte) = Utf8.decode? bs := by
    rw [Piece.text?, Piece.bytes?, Piece.bytes?_map_byte]
    rfl
  have begun : Lexer.step (.nothing, []) 0x22 = some (.string [], []) := rfl
  rw [ofBytes, Lexer.steps, begun]
  dsimp only
  rw [Lexer.steps_string plain, ← text]
  rfl

end Token

/-! Documents of one token, and what is read of them. -/

/-- The text is one token that is a value of its own. -/
inductive Document.IsToken (bs : Bytes) : Tree → Prop
  | number {value : Option Number} (one : Token.ofBytes bs = ([.number value], true)) :
      IsToken bs (.number value)
  | text {value : Option String} (one : Token.ofBytes bs = ([.text value], true)) :
      IsToken bs (.text value)

theorem Document.ofBytes_token {bs : Bytes} {t : Tree} (h : IsToken bs t) :
    ofBytes bs = ⟨some t, true⟩ := by
  cases h with
  | number one | text one =>
      rw [ofBytes, one]
      rfl

namespace Decoder

variable {α : Type} {item : Decoder α} {bs : Bytes} {t : Tree} {r : IntRange}

theorem decode_token (h : Document.IsToken bs t) :
    decode item bs = (item depthLimit t).mapError Fault.undecodable := by
  rw [decode, readText, Document.ofBytes_token h]
  exact congrArg (Except.mapError _) (bind_pure _)

/-- An integer, or text, is read alike from JSON and from a value that was read before. -/
theorem toOption_decode_value (h : Document.IsToken bs t) :
    (decode value bs >>= decodeValue (integerOrText r)).toOption =
      (decode (integerOrText r) bs).toOption := by
  rw [decode_token h, decode_token h, toOption_mapError]
  cases h with
  | @number n one =>
      cases n with
      | none => rfl
      | some n => exact toOption_mapError _ _
  | @text s one =>
      cases s with
      | none => rfl
      | some s => exact toOption_mapError _ _

theorem toOption_number (r : IntRange) (depth : Nat) (n : Option Number) :
    (integerOrText r depth (.number n)).toOption = (n.bind Number.integer?).filter r.contains := by
  cases n with
  | none => rfl
  | some n =>
      rw [Option.bind_some, integerOrText, integer]
      cases whole : n.integer? with
      | none => rfl
      | some i => cases within : r.contains i <;> simp [Option.filter, within, Except.toOption]

end Decoder

/-! The two texts for an integer. -/

section Texts

variable (n : Int)

theorem ascii_toString : ∀ c ∈ (toString n).toList, c.toNat < 128 := by
  intro c member
  rcases Text.mem_toString member with rfl | digit
  · decide
  · exact Nat.lt_of_le_of_lt digit.2 (by decide)

theorem plain_toString : ∀ b ∈ (toString n).toList.map code, Lexer.Plain b := by
  intro b member
  obtain ⟨c, listed, rfl⟩ := List.mem_map.1 member
  rcases Text.mem_toString listed with rfl | digit
  · exact Lexer.plain_minus
  · exact Lexer.plain_digit (Numeral.isDigit_code digit)

theorem isToken_toString : Document.IsToken (Utf8.encode (toString n))
    (.number (Numeral.ofInt n).value?) := by
  have codes := Utf8.encode_ofList (ascii_toString n)
  rw [String.ofList_toList] at codes
  rw [codes]
  exact .number (Token.ofBytes_numeral (plain_toString n) (Numeral.ofBytes?_toString n))

theorem isToken_quoted : Document.IsToken (Utf8.encode ("\"" ++ toString n ++ "\""))
    (.text (some (toString n))) := by
  have quoted : "\"" ++ toString n ++ "\"" = .ofList ('"' :: ((toString n).toList ++ ['"'])) := by
    rw [String.ext_iff]
    simp
  have ascii : ∀ c ∈ '"' :: ((toString n).toList ++ ['"']), c.toNat < 128 := by
    simp only [List.mem_cons, List.mem_append, List.not_mem_nil, or_false]
    rintro c (rfl | member | rfl)
    · decide
    · exact ascii_toString n c member
    · decide
  have token := Token.ofBytes_quoted (plain_toString n)
  rw [Utf8.decode?_codes (ascii_toString n), String.ofList_toList] at token
  rw [quoted, Utf8.encode_ofList ascii, List.map_cons, List.map_append]
  exact .text token

end Texts

theorem fits_of_within {bits : Nat} (fits : bits ≤ 64) {r : IntRange}
    (machine : r ∈ [IntRange.unsigned bits, .signed bits]) {n : Int}
    (within : r.low ≤ n ∧ n ≤ r.high) : Numeral.range.low ≤ n ∧ n ≤ Numeral.range.high := by
  have whole : Nat.pow 2 bits ≤ Nat.pow 2 64 := Nat.pow_le_pow_right (by decide) fits
  have half : Nat.pow 2 (bits - 1) ≤ Nat.pow 2 63 := Nat.pow_le_pow_right (by decide) (by omega)
  change Nat.pow 2 bits ≤ 18446744073709551616 at whole
  change Nat.pow 2 (bits - 1) ≤ 9223372036854775808 at half
  change -9223372036854775808 ≤ n ∧ n ≤ 18446744073709551615
  simp only [List.mem_cons, List.not_mem_nil, or_false] at machine
  rcases machine with rfl | rfl
  · simp only [IntRange.unsigned] at within
    omega
  · simp only [IntRange.signed] at within
    omega

/-- Where an integer is read, it may be written as a number or as text. For any machine integer of
up to sixty-four bits, and an integer of any size, its decimal text comes to the same between quotes
and without them, and the same again if it is read from a value that was read before: the integer if
it is in range, and nothing if it is not. -/
theorem number_and_text_agree {bits : Nat} (fits : bits ≤ 64) (n : Int) :
    ∀ r ∈ [IntRange.unsigned bits, .signed bits],
      ∀ text ∈ [toString n, "\"" ++ toString n ++ "\""],
        (Decoder.decode (Decoder.integerOrText r) (Utf8.encode text)).toOption =
            (if r.low ≤ n ∧ n ≤ r.high then some n else none) ∧
          (Decoder.decode Decoder.value (Utf8.encode text) >>=
              Decoder.decodeValue (Decoder.integerOrText r)).toOption =
            if r.low ≤ n ∧ n ≤ r.high then some n else none := by
  intro r machine text written
  obtain ⟨t, token, read⟩ : ∃ t, Document.IsToken (Utf8.encode text) t ∧
      (Decoder.integerOrText r Decoder.depthLimit t).toOption =
        if r.low ≤ n ∧ n ≤ r.high then some n else none := by
    simp only [List.mem_cons, List.not_mem_nil, or_false] at written
    rcases written with rfl | rfl
    · refine ⟨_, isToken_toString n, ?_⟩
      rw [Decoder.toOption_number, Numeral.value?_ofInt]
      by_cases within : r.low ≤ n ∧ n ≤ r.high
      · rw [if_pos (fits_of_within fits machine within), if_pos within, Option.filter_some,
          if_pos (IntRange.contains_iff.2 within)]
      · rw [if_neg within]
        split
        · rw [Option.filter_some, if_neg (mt IntRange.contains_iff.1 within)]
        · rfl
    · exact ⟨_, isToken_quoted n, r.read_toString n⟩
  have direct : (Decoder.decode (Decoder.integerOrText r) (Utf8.encode text)).toOption =
      if r.low ≤ n ∧ n ≤ r.high then some n else none := by
    rw [Decoder.decode_token token, toOption_mapError, read]
  exact ⟨direct, (Decoder.toOption_decode_value token).trans direct⟩

/-- The largest integer of eight bits, and the next one. -/
theorem number_and_text_agree_byte :
    (Decoder.decode (Decoder.integerOrText (.unsigned 8)) (Utf8.encode "255")).toOption =
        some 255 ∧
      (Decoder.decode Decoder.value (Utf8.encode "\"256\"") >>=
        Decoder.decodeValue (Decoder.integerOrText (.unsigned 8))).toOption = none := by
  have machine : IntRange.unsigned 8 ∈ [IntRange.unsigned 8, .signed 8] := List.mem_cons_self
  have fits : 8 ≤ 64 := by decide
  have last := (number_and_text_agree fits 255 _ machine _ List.mem_cons_self).1
  have next := (number_and_text_agree fits 256 _ machine _
    (List.mem_cons_of_mem _ List.mem_cons_self)).2
  exact ⟨last, next⟩

end ChainIndexer.Json
