import ChainIndexer.Bytes.Utf8

/-! The bytes of a text, character by character. The first byte of a character does not carry one
on and all its other bytes do, so that the bytes by themselves show where a character begins. -/
namespace ChainIndexer.Utf8

theorem encode_ofList_eq (cs : List Char) :
    encode (.ofList cs) = cs.flatMap String.utf8EncodeChar := by
  simp [encode, String.toUTF8_eq_toByteArray, List.utf8Encode]

theorem encode_eq (s : String) : encode s = s.toList.flatMap String.utf8EncodeChar := by
  rw [← encode_ofList_eq, String.ofList_toList]

theorem isContinuation_iff {b : UInt8} :
    isContinuation b = true ↔ 128 ≤ b.toNat ∧ b.toNat ≤ 191 := by
  simp [isContinuation, UInt8.le_iff_toNat_le]

theorem isContinuation_ofNat {n : Nat} : isContinuation (.ofNat (n % 64 + 128)) = true := by
  rw [isContinuation_iff, UInt8.toNat_ofNat_of_lt' (by simp only [UInt8.size]; omega)]
  omega

/-- A first byte is either below the bytes that carry a character on, or above them. -/
theorem not_isContinuation_ofNat {n : Nat} (byte : n < 256) (first : n ≤ 127 ∨ 192 ≤ n) :
    isContinuation (.ofNat n) = false := by
  rw [Bool.eq_false_iff, ne_eq, isContinuation_iff, UInt8.toNat_ofNat_of_lt' byte]
  omega

theorem exists_utf8EncodeChar (c : Char) : ∃ lead rest, String.utf8EncodeChar c = lead :: rest ∧
    isContinuation lead = false ∧ ∀ b ∈ rest, isContinuation b = true := by
  rw [String.utf8EncodeChar.eq_1]
  split
  · next small =>
      exact ⟨_, [], rfl, not_isContinuation_ofNat (by omega) (.inl small), by simp⟩
  · -- Two, three or four bytes, of which the first has the leading bits 110, 1110 or 11110.
    repeat' split
    all_goals
      exact ⟨_, _, rfl, not_isContinuation_ofNat (by omega) (.inr (by omega)),
        by simp only [List.forall_mem_cons, isContinuation_ofNat, List.not_mem_nil, false_imp_iff,
          implies_true, and_self]⟩

/-- Whether a character begins at a position of the bytes, or the text ends there. -/
def isBoundary (bs : Bytes) (n : Nat) : Bool :=
  match bs[n]? with
  | some b => !isContinuation b
  | none => n == bs.length

/-- The last boundary not beyond a position, looked for backwards. The search fails where it would
have to go below zero. -/
def floorBoundary? (bs : Bytes) : Nat → Option Nat
  | 0 => if isBoundary bs 0 then some 0 else none
  | n + 1 => if isBoundary bs (n + 1) then some (n + 1) else floorBoundary? bs n

theorem isBoundary_append (before after : Bytes) (n : Nat) :
    isBoundary (before ++ after) (before.length + n) = isBoundary after n := by
  unfold isBoundary
  rw [List.getElem?_append_right (Nat.le_add_right _ _), Nat.add_sub_cancel_left]
  cases after[n]? with
  | some b => rfl
  | none =>
      rw [List.length_append, Bool.eq_iff_iff, beq_iff_eq, beq_iff_eq]
      exact Nat.add_left_cancel_iff

/-- Where a character has begun and not ended, there is no boundary. -/
theorem isBoundary_inside (c : Char) (after : Bytes) {n : Nat} (begun : 0 < n)
    (inside : n < c.utf8Size) :
    isBoundary (String.utf8EncodeChar c ++ after) n = false := by
  obtain ⟨lead, rest, bytes, -, carried⟩ := exists_utf8EncodeChar c
  obtain ⟨k, rfl⟩ := Nat.exists_eq_succ_of_ne_zero (Nat.ne_of_gt begun)
  have shorter : k < rest.length := by
    have := String.length_utf8EncodeChar c
    rw [bytes, List.length_cons] at this
    omega
  rw [isBoundary, bytes, List.cons_append, List.getElem?_cons_succ,
    List.getElem?_append_left shorter, List.getElem?_eq_getElem shorter]
  simp [carried _ (List.getElem_mem shorter)]

/-- A text begins with a boundary, even if it is empty. -/
theorem isBoundary_zero (cs : List Char) :
    isBoundary (cs.flatMap String.utf8EncodeChar) 0 = true := by
  cases cs with
  | nil => rfl
  | cons c cs =>
      obtain ⟨lead, rest, bytes, first, -⟩ := exists_utf8EncodeChar c
      simp [isBoundary, bytes, first]

end ChainIndexer.Utf8
