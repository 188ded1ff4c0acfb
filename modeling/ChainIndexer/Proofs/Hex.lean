import ChainIndexer.ConsensusAddress

/-! Hexadecimal text and the bytes it stands for. What is written is read back, so that bytes, and
the addresses made from them, are told apart by their text. -/
namespace ChainIndexer

namespace Hex

theorem digitValue?_upperDigit : ∀ n < 16, digitValue? (upperDigit n) = some n := by decide

theorem ofNat_halves (b : UInt8) : UInt8.ofNat (16 * (b.toNat / 16) + b.toNat % 16) = b := by
  rw [Nat.div_add_mod, UInt8.ofNat_toNat]

theorem decodeChars?_digits {digit : Nat → Char}
    (reads : ∀ n < 16, digitValue? (digit n) = some n) (bs : Bytes) :
    decodeChars? (digits digit bs) = some bs := by
  induction bs with
  | nil => rfl
  | cons b bs ih =>
      have high : b.toNat / 16 < 16 := Nat.div_lt_of_lt_mul b.toNat_lt
      have low : b.toNat % 16 < 16 := Nat.mod_lt _ (by decide)
      change decodeChars? (_ :: _ :: digits digit bs) = _
      rw [decodeChars?, reads _ high, reads _ low, ih]
      exact congrArg (fun b => some (b :: bs)) (ofNat_halves b)

theorem decode?_encodeUpper (bs : Bytes) : decode? (encodeUpper bs) = some bs := by
  rw [decode?, encodeUpper, String.toList_ofList, decodeChars?_digits digitValue?_upperDigit]

theorem encodeUpper_injective {bs bs' : Bytes} (h : encodeUpper bs = encodeUpper bs') :
    bs = bs' := by
  apply Option.some.inj
  rw [← decode?_encodeUpper bs, h, decode?_encodeUpper]

end Hex

theorem ConsensusAddress.ofRaw_inj {raw raw' : Bytes} : ofRaw raw = ofRaw raw' ↔ raw = raw' := by
  constructor
  · intro same
    exact Hex.encodeUpper_injective (congrArg text same)
  · rintro rfl
    rfl

end ChainIndexer
