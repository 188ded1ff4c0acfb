import ChainIndexer.Height.Queue

/-! Arithmetic of heights, which have sixty-four bits: the next height, if there is one, the higher
one of two, and the heights from one to another. -/
namespace ChainIndexer

theorem toNat_succ_of_lt {last height : Height} (newer : last < height) :
    (last + 1).toNat = last.toNat + 1 := by
  have below := UInt64.lt_iff_toNat_lt.1 newer
  have bound := height.toNat_lt
  rw [UInt64.toNat_add, UInt64.toNat_one]
  omega

theorem toNat_max (a b : Height) : (max a b).toNat = max a.toNat b.toNat := by
  change (if a ≤ b then b else a).toNat = _
  by_cases below : a ≤ b
  · rw [if_pos below, Nat.max_eq_right (UInt64.le_iff_toNat_le.1 below)]
  · have above := UInt64.le_of_lt (UInt64.not_le.1 below)
    rw [if_neg below, Nat.max_eq_left (UInt64.le_iff_toNat_le.1 above)]

theorem max_of_lt {a b : Height} (h : a < b) : max a b = b := by
  have := UInt64.lt_iff_toNat_lt.1 h
  exact UInt64.toNat_inj.1 (by rw [toNat_max]; omega)

theorem max_of_not_lt {a b : Height} (h : ¬ a < b) : max a b = a := by
  have := mt UInt64.lt_iff_toNat_lt.2 h
  exact UInt64.toNat_inj.1 (by rw [toNat_max]; omega)

def lastHeight : Height := 18446744073709551615

theorem heightsBetween_after_self {last height : Height} (more : last < height) :
    heightsBetween (last + 1) last = [] := by
  rw [heightsBetween, toNat_succ_of_lt more, Nat.sub_self]
  rfl

theorem heightsBetween_succ {first last height : Height} (started : first ≤ last + 1)
    (more : last < height) :
    heightsBetween first (last + 1) = heightsBetween first last ++ [last + 1] := by
  have next := toNat_succ_of_lt more
  have started := UInt64.le_iff_toNat_le.1 started
  have count : last.toNat + 1 + 1 - first.toNat = last.toNat + 1 - first.toNat + 1 := by omega
  have place : first.toNat + (last.toNat + 1 - first.toNat) = (last + 1).toNat := by omega
  rw [heightsBetween, next, count, List.range'_1_concat, List.map_append, List.map_singleton, place,
    UInt64.ofNat_toNat, heightsBetween]

end ChainIndexer
