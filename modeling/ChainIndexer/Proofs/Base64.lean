import ChainIndexer.Bytes.Base64

/-! Base 64 text and the bytes it stands for. What is written is read back, and nothing else is. -/
namespace ChainIndexer.Base64

theorem symbolValue?_symbol : ∀ n < 64, symbolValue? (symbol n) = some n := by decide

theorem symbol_ne_padding : ∀ n < 64, symbol n ≠ '=' := by decide

theorem ofNat_eq {n : Nat} {b : UInt8} (h : n = b.toNat) : UInt8.ofNat n = b := by
  rw [h, UInt8.ofNat_toNat]

theorem one?_split (a : UInt8) : one? (a.toNat / 4) (a.toNat % 4 * 16) = some [a] := by
  rw [one?, if_pos (by omega), ofNat_eq (b := a) (by omega)]

theorem two?_split (a b : UInt8) :
    two? (a.toNat / 4) (a.toNat % 4 * 16 + b.toNat / 16) (b.toNat % 16 * 4) = some [a, b] := by
  have := b.toNat_lt
  rw [two?, if_pos (by omega), ofNat_eq (b := a) (by omega), ofNat_eq (b := b) (by omega)]

/-- Without padding at its end, a group of four is read before the others. -/
theorem decodeChars?_group {a b c d : Char} (rest : List Char) (plain : d ≠ '=') :
    decodeChars? (a :: b :: c :: d :: rest) = (do
      let a ← symbolValue? a
      let b ← symbolValue? b
      let c ← symbolValue? c
      let d ← symbolValue? d
      let bs ← decodeChars? rest
      return UInt8.ofNat (a * 4 + b / 16) :: UInt8.ofNat (b % 16 * 16 + c / 4) ::
        UInt8.ofNat (c % 4 * 64 + d) :: bs) := by
  rw [decodeChars?]
  · exact fun _ padding _ => plain padding
  · exact fun padding _ => plain padding

theorem decodeChars?_encodeChars (bs : Bytes) : decodeChars? (encodeChars bs) = some bs := by
  induction bs using encodeChars.induct with
  | case1 => rfl
  | case2 a =>
      have := a.toNat_lt
      rw [encodeChars, decodeChars?, symbolValue?_symbol _ (by omega),
        symbolValue?_symbol _ (by omega)]
      exact one?_split a
  | case3 a b =>
      have := a.toNat_lt
      have := b.toNat_lt
      rw [encodeChars, decodeChars?, symbolValue?_symbol _ (by omega),
        symbolValue?_symbol _ (by omega), symbolValue?_symbol _ (by omega)]
      · exact two?_split a b
      · exact symbol_ne_padding _ (by omega)
  | case4 a b c rest ih =>
      have := a.toNat_lt
      have := b.toNat_lt
      have := c.toNat_lt
      rw [encodeChars, decodeChars?_group _ (symbol_ne_padding _ (by omega)),
        symbolValue?_symbol _ (by omega), symbolValue?_symbol _ (by omega),
        symbolValue?_symbol _ (by omega), symbolValue?_symbol _ (by omega), ih]
      change some (_ :: _ :: _ :: rest) = _
      rw [ofNat_eq (b := a) (by omega), ofNat_eq (b := b) (by omega),
        ofNat_eq (b := c) (by omega)]

theorem decode?_encode (bs : Bytes) : decode? (encode bs) = some bs := by
  rw [decode?, encode, String.toList_ofList, decodeChars?_encodeChars]

theorem symbol_of_symbolValue? {c : Char} {n : Nat} (read : symbolValue? c = some n) :
    n < 64 ∧ symbol n = c := by
  have upper : 'A' ≤ c ∧ c ≤ 'Z' ↔ 65 ≤ c.toNat ∧ c.toNat ≤ 90 := .rfl
  have lower : 'a' ≤ c ∧ c ≤ 'z' ↔ 97 ≤ c.toNat ∧ c.toNat ≤ 122 := .rfl
  have decimal : '0' ≤ c ∧ c ≤ '9' ↔ 48 ≤ c.toNat ∧ c.toNat ≤ 57 := .rfl
  have char {m : Nat} (same : m = c.toNat) : Char.ofNat m = c := by rw [same, Char.ofNat_toNat]
  simp only [symbolValue?, upper, lower, decimal] at read
  split at read
  · cases read
    rw [symbol, if_pos (by omega)]
    exact ⟨by omega, char (by omega)⟩
  split at read
  · cases read
    rw [symbol, if_neg (by omega), if_pos (by omega)]
    exact ⟨by omega, char (by omega)⟩
  split at read
  · cases read
    rw [symbol, if_neg (by omega), if_neg (by omega), if_pos (by omega)]
    exact ⟨by omega, char (by omega)⟩
  split at read
  · next plus =>
      cases read
      exact ⟨by decide, plus.symm⟩
  split at read
  · next slash =>
      cases read
      exact ⟨by decide, slash.symm⟩
  · cases read

theorem toNat_ofNat {n : Nat} (small : n < 256) : (UInt8.ofNat n).toNat = n :=
  UInt8.toNat_ofNat_of_lt' small

theorem encodeChars_one {x y : Nat} {bs : Bytes} (small : x < 64 ∧ y < 64)
    (read : one? x y = some bs) : encodeChars bs = [symbol x, symbol y, '=', '='] := by
  obtain ⟨whole, ⟨⟩⟩ := Option.ite_none_right_eq_some.1 read
  have first : (x * 4 + y / 16) / 4 = x := by omega
  have second : (x * 4 + y / 16) % 4 * 16 = y := by omega
  rw [encodeChars, toNat_ofNat (by omega), first, second]

theorem encodeChars_two {x y z : Nat} {bs : Bytes} (small : x < 64 ∧ y < 64 ∧ z < 64)
    (read : two? x y z = some bs) : encodeChars bs = [symbol x, symbol y, symbol z, '='] := by
  obtain ⟨whole, ⟨⟩⟩ := Option.ite_none_right_eq_some.1 read
  have first : (x * 4 + y / 16) / 4 = x := by omega
  have second : (x * 4 + y / 16) % 4 * 16 + (y % 16 * 16 + z / 4) / 16 = y := by omega
  have third : (y % 16 * 16 + z / 4) % 16 * 4 = z := by omega
  rw [encodeChars, toNat_ofNat (by omega), toNat_ofNat (by omega), first, second, third]

theorem encodeChars_three {x y z v : Nat} (small : x < 64 ∧ y < 64 ∧ z < 64 ∧ v < 64)
    (bs : Bytes) :
    encodeChars (UInt8.ofNat (x * 4 + y / 16) :: UInt8.ofNat (y % 16 * 16 + z / 4) ::
      UInt8.ofNat (z % 4 * 64 + v) :: bs) =
        symbol x :: symbol y :: symbol z :: symbol v :: encodeChars bs := by
  have first : (x * 4 + y / 16) / 4 = x := by omega
  have second : (x * 4 + y / 16) % 4 * 16 + (y % 16 * 16 + z / 4) / 16 = y := by omega
  have third : (y % 16 * 16 + z / 4) % 16 * 4 + (z % 4 * 64 + v) / 64 = z := by omega
  have fourth : (z % 4 * 64 + v) % 64 = v := by omega
  rw [encodeChars, toNat_ofNat (by omega), toNat_ofNat (by omega), toNat_ofNat (by omega), first,
    second, third, fourth]

theorem encodeChars_of_decodeChars? {cs : List Char} {bs : Bytes}
    (read : decodeChars? cs = some bs) : encodeChars bs = cs := by
  induction cs using decodeChars?.induct generalizing bs with
  | case1 =>
      cases read
      rfl
  | case2 a b =>
      obtain ⟨x, a', more⟩ := Option.bind_eq_some_iff.1 read
      obtain ⟨y, b', made⟩ := Option.bind_eq_some_iff.1 more
      obtain ⟨small₁, rfl⟩ := symbol_of_symbolValue? a'
      obtain ⟨small₂, rfl⟩ := symbol_of_symbolValue? b'
      exact encodeChars_one ⟨small₁, small₂⟩ made
  | case3 a b c plain =>
      rw [decodeChars?.eq_3 _ _ _ plain] at read
      obtain ⟨x, a', more⟩ := Option.bind_eq_some_iff.1 read
      obtain ⟨y, b', more'⟩ := Option.bind_eq_some_iff.1 more
      obtain ⟨z, c', made⟩ := Option.bind_eq_some_iff.1 more'
      obtain ⟨small₁, rfl⟩ := symbol_of_symbolValue? a'
      obtain ⟨small₂, rfl⟩ := symbol_of_symbolValue? b'
      obtain ⟨small₃, rfl⟩ := symbol_of_symbolValue? c'
      exact encodeChars_two ⟨small₁, small₂, small₃⟩ made
  | case4 a b c d rest one two ih =>
      rw [decodeChars?.eq_4 _ _ _ _ _ one two] at read
      obtain ⟨x, a', read⟩ := Option.bind_eq_some_iff.1 read
      obtain ⟨y, b', read⟩ := Option.bind_eq_some_iff.1 read
      obtain ⟨z, c', read⟩ := Option.bind_eq_some_iff.1 read
      obtain ⟨v, d', read⟩ := Option.bind_eq_some_iff.1 read
      obtain ⟨more, rest', ⟨⟩⟩ := Option.bind_eq_some_iff.1 read
      obtain ⟨small₁, rfl⟩ := symbol_of_symbolValue? a'
      obtain ⟨small₂, rfl⟩ := symbol_of_symbolValue? b'
      obtain ⟨small₃, rfl⟩ := symbol_of_symbolValue? c'
      obtain ⟨small₄, rfl⟩ := symbol_of_symbolValue? d'
      rw [encodeChars_three ⟨small₁, small₂, small₃, small₄⟩, ih rest']
  | case5 cs none pair triple group =>
      rw [decodeChars?.eq_5 _ none pair triple group] at read
      cases read

/-- Text stands for bytes if and only if it is what is written for them. -/
theorem decode?_eq_some_iff {s : String} {bs : Bytes} : decode? s = some bs ↔ s = encode bs := by
  constructor
  · intro read
    rw [encode, encodeChars_of_decodeChars? read, String.ofList_toList]
  · rintro rfl
    exact decode?_encode bs

end ChainIndexer.Base64
