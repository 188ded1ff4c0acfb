import ChainIndexer.Fault
import ChainIndexer.Text.Part

/-! Texts and their parts. Cutting a text leaves the longest beginning that fits, so a part is left
exactly if it ends within the limit. What a fault says in full is its complete text, cut. -/
namespace ChainIndexer

namespace Text

variable {part before cs : List Char} {n : Nat}

theorem standsIn_iff : standsIn part cs = true ↔ part <:+: cs := by
  induction cs with
  | nil => simp [standsIn]
  | cons c cs ih => simp [standsIn, ih, List.infix_cons_iff, List.isPrefixOf_iff_prefix]

theorem prefix_of_prefix_append_cons {c : Char} (without : c ∉ part)
    (h : part <+: before ++ c :: cs) : part <+: before := by
  rcases List.prefix_or_prefix_of_prefix h (List.prefix_append before (c :: cs)) with
    fits | ⟨rest, rfl⟩
  · exact fits
  · cases rest with
    | nil => exact (List.append_nil before).symm ▸ List.prefix_refl before
    | cons r rest =>
        have same : r = c := (List.cons_prefix_cons.1 ((List.prefix_append_right_inj before).1 h)).1
        exact absurd (same ▸ List.mem_append_right before List.mem_cons_self) without

theorem infix_append_cons_iff {c : Char} (without : c ∉ part) :
    part <:+: before ++ c :: cs ↔ part <:+: before ∨ part <:+: cs := by
  constructor
  · intro h
    induction before with
    | nil =>
        rcases List.infix_cons_iff.1 h with first | later
        · exact .inl (prefix_of_prefix_append_cons without first).isInfix
        · exact .inr later
    | cons b before ih =>
        rcases List.infix_cons_iff.1 h with first | later
        · exact .inl (prefix_of_prefix_append_cons without first).isInfix
        · exact (ih later).imp_left fun h => h.trans (List.suffix_cons b before).isInfix
  · rintro (left | right)
    · exact left.trans (List.prefix_append before _).isInfix
    · exact right.trans ⟨before ++ [c], [], by simp⟩

theorem width_append (cs ds : List Char) : width (cs ++ ds) = width cs + width ds := by
  induction cs with
  | nil => simp [width]
  | cons c cs ih => simp [width, ih, Nat.add_assoc]

/-- The characters before a position are the longest beginning that takes no more bytes. -/
theorem prefix_charsBefore_iff :
    before <+: charsBefore cs n ↔ before <+: cs ∧ width before ≤ n := by
  induction cs generalizing before n with
  | nil =>
      cases before with
      | nil => simp [charsBefore, width]
      | cons b before => simp [charsBefore]
  | cons c cs ih =>
      cases before with
      | nil => simp [width]
      | cons b before =>
          rw [charsBefore, List.cons_prefix_cons, width]
          split
          · rw [List.cons_prefix_cons, ih, and_assoc]
            refine and_congr_right fun same => and_congr_right fun _ => ?_
            subst same
            omega
          · refine ⟨fun absurd => by simp at absurd, ?_⟩
            rintro ⟨⟨rfl, _⟩, fits⟩
            omega

/-- A part is left before a position exactly if it ends there at the latest. -/
theorem infix_charsBefore_iff :
    part <:+: charsBefore cs n ↔
      ∃ before after, cs = before ++ part ++ after ∧ width (before ++ part) ≤ n := by
  constructor
  · rintro ⟨before, rest, kept⟩
    obtain ⟨⟨after, whole⟩, fits⟩ := prefix_charsBefore_iff.1 ⟨rest, kept⟩
    exact ⟨before, after, whole.symm, fits⟩
  · rintro ⟨before, after, rfl, fits⟩
    obtain ⟨rest, kept⟩ := prefix_charsBefore_iff.2 ⟨⟨after, rfl⟩, fits⟩
    exact ⟨before, rest, kept⟩

theorem isBoundary_cons (c : Char) (cs : List Char) (n : Nat) :
    isBoundary (c :: cs) (c.utf8Size + n) = isBoundary cs n := by
  obtain ⟨k, size⟩ := Nat.exists_eq_succ_of_ne_zero (Nat.ne_of_gt c.utf8Size_pos)
  have position : c.utf8Size + n = k + n + 1 := by omega
  have rest : k + n + 1 - c.utf8Size = n := by omega
  rw [position, isBoundary, rest, decide_eq_true (by omega), Bool.true_and]

theorem isBoundary_width (before after : List Char) :
    isBoundary (before ++ after) (width before) = true := by
  induction before with
  | nil => cases after <;> rfl
  | cons b before ih => exact (isBoundary_cons b _ _).trans ih

theorem le_floorBoundary {m : Nat} (boundary : isBoundary cs m = true) (within : m ≤ n) :
    m ≤ floorBoundary cs n := by
  induction n with
  | zero => exact within
  | succ n ih =>
      unfold floorBoundary
      split
      · exact within
      · rcases Nat.lt_or_eq_of_le within with below | rfl
        · exact ih (Nat.le_of_lt_succ below)
        · contradiction

/-- Looking for a boundary first leaves nothing more out. -/
theorem clip_eq (limit : Nat) (s : String) :
    clip limit s = String.ofList (charsBefore s.toList limit) := by
  have same : ∀ before, before <+: charsBefore s.toList
      (floorBoundary s.toList (min limit (width s.toList))) ↔
        before <+: charsBefore s.toList limit := by
    intro before
    rw [prefix_charsBefore_iff, prefix_charsBefore_iff]
    refine and_congr_right ?_
    rintro ⟨after, whole⟩
    have boundary := isBoundary_width before after
    have longer := width_append before after
    rw [whole] at boundary longer
    constructor
    · intro fits
      have := floorBoundary_le s.toList (min limit (width s.toList))
      omega
    · exact fun fits => le_floorBoundary boundary (by omega)
  have left := (same _).1 (List.prefix_refl _)
  have right := (same _).2 (List.prefix_refl _)
  exact congrArg String.ofList (left.eq_of_length_le right.length_le)

theorem charsBefore_zero (cs : List Char) : charsBefore cs 0 = [] := by
  cases cs with
  | nil => rfl
  | cons c cs => rw [charsBefore, if_neg (Nat.not_le.2 c.utf8Size_pos)]

theorem charsBefore_append (cs ds : List Char) (n : Nat) :
    charsBefore (cs ++ ds) n = charsBefore cs n ++ charsBefore ds (n - width cs) := by
  induction cs generalizing n with
  | nil => rfl
  | cons c cs ih =>
      rw [List.cons_append, charsBefore, charsBefore, width]
      split
      · rw [ih, List.cons_append, Nat.sub_sub]
      · have none : n - (c.utf8Size + width cs) = 0 := by omega
        rw [none, charsBefore_zero, List.nil_append]

end Text

/-- Words and diagnosis are cut as one text. -/
theorem Message.text_clip (limit : Nat) (m : Message) :
    (m.clip limit).text = Text.clip limit m.text := by
  simp only [Message.text, Message.clip, Text.clip_eq, String.toList_append,
    Text.charsBefore_append, String.ofList_append]

end ChainIndexer
