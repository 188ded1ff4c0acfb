import ChainIndexer.Http.Exchange
import ChainIndexer.Proofs.Text
import ChainIndexer.Proofs.Utf8

/-! Cut texts. The bytes of a text show the boundaries between its characters, so that the search
for one, made on bytes, ends at a boundary within the text and never below zero. A text that is cut
there keeps as many whole characters as fit: all of them if they do, and otherwise at most three
bytes less than are allowed. Faults quote texts in this way. -/
namespace ChainIndexer

namespace Text

variable {cs : List Char} {n : Nat}

theorem width_eq_length (cs : List Char) :
    width cs = (cs.flatMap String.utf8EncodeChar).length := by
  induction cs with
  | nil => rfl
  | cons c cs ih =>
      rw [width, List.flatMap_cons, List.length_append, String.length_utf8EncodeChar, ih]

theorem length_encode (s : String) : (Utf8.encode s).length = width s.toList := by
  rw [Utf8.encode_eq, width_eq_length]

theorem isBoundary_flatMap (cs : List Char) (n : Nat) :
    Utf8.isBoundary (cs.flatMap String.utf8EncodeChar) n = isBoundary cs n := by
  induction cs generalizing n with
  | nil => cases n <;> rfl
  | cons c cs ih =>
      -- The position is where the first character begins, inside it, or in what follows it.
      rcases Nat.eq_zero_or_pos n with rfl | begun
      · exact Utf8.isBoundary_zero (c :: cs)
      · rw [List.flatMap_cons]
        rcases Nat.lt_or_ge n c.utf8Size with inside | beyond
        · rw [Utf8.isBoundary_inside c _ begun inside]
          obtain ⟨k, rfl⟩ := Nat.exists_eq_succ_of_ne_zero (Nat.ne_of_gt begun)
          rw [isBoundary, decide_eq_false (Nat.not_le.2 inside), Bool.false_and]
        · obtain ⟨k, rfl⟩ := Nat.exists_eq_add_of_le beyond
          rw [isBoundary_cons, ← ih, ← String.length_utf8EncodeChar c, Utf8.isBoundary_append]

/-- On the bytes of a text the search ends where it does on the characters. It never goes below
zero, because a text begins with a boundary. -/
theorem floorBoundary?_flatMap (cs : List Char) (n : Nat) :
    Utf8.floorBoundary? (cs.flatMap String.utf8EncodeChar) n = some (floorBoundary cs n) := by
  induction n with
  | zero => exact if_pos (Utf8.isBoundary_zero cs)
  | succ n ih =>
      rw [Utf8.floorBoundary?, floorBoundary, isBoundary_flatMap, ih]
      split <;> rfl

theorem flatMap_charsBefore (boundary : isBoundary cs n = true) :
    (charsBefore cs n).flatMap String.utf8EncodeChar =
      (cs.flatMap String.utf8EncodeChar).take n := by
  induction cs generalizing n with
  | nil => simp [charsBefore]
  | cons c cs ih =>
      cases n with
      | zero => rw [charsBefore_zero, List.take_zero, List.flatMap_nil]
      | succ n =>
          rw [isBoundary, Bool.and_eq_true, decide_eq_true_eq] at boundary
          obtain ⟨fits, boundary⟩ := boundary
          have whole : (String.utf8EncodeChar c).length ≤ n + 1 := by
            rwa [String.length_utf8EncodeChar]
          rw [charsBefore, if_pos fits, List.flatMap_cons, List.flatMap_cons, ih boundary,
            List.take_append, List.take_of_length_le whole, String.length_utf8EncodeChar]

theorem charsBefore_of_width_le (fits : width cs ≤ n) : charsBefore cs n = cs := by
  have kept := (prefix_charsBefore_iff.1 (List.prefix_refl (charsBefore cs n))).1
  have all := prefix_charsBefore_iff.2 ⟨List.prefix_refl cs, fits⟩
  exact kept.eq_of_length_le all.length_le

/-- A character that does not fit any more has at most four bytes. -/
theorem le_width_charsBefore (longer : n < width cs) : n ≤ width (charsBefore cs n) + 3 := by
  induction cs generalizing n with
  | nil => cases longer
  | cons c cs ih =>
      rw [width] at longer
      rw [charsBefore]
      split
      · next fits =>
          have rest := ih (n := n - c.utf8Size) (by omega)
          rw [width]
          omega
      · have := c.utf8Size_le_four
        omega

/-- What is `kept` of a `whole` text that is cut to a number of bytes: its longest beginning of
whole characters that fits. -/
structure Clipped (limit : Nat) (whole kept : String) : Prop where
  begins : kept.toList <+: whole.toList
  fits : (Utf8.encode kept).length ≤ limit
  longest : ∀ other : String, other.toList <+: whole.toList →
    (Utf8.encode other).length ≤ limit → other.toList <+: kept.toList
  uncut : (Utf8.encode whole).length ≤ limit → kept = whole
  nearlyFull : limit < (Utf8.encode whole).length → limit ≤ (Utf8.encode kept).length + 3
  /-- The search for a boundary does not fail on the bytes. It ends within the text, where the
  search on the characters ends too, and there the bytes are cut. -/
  searched : ∃ stop ≤ (Utf8.encode whole).length,
    floorBoundary whole.toList (min limit (Utf8.encode whole).length) = stop ∧
    Utf8.floorBoundary? (Utf8.encode whole) (min limit (Utf8.encode whole).length) = some stop ∧
    Utf8.encode kept = (Utf8.encode whole).take stop

theorem clipped_clip (limit : Nat) (s : String) : Clipped limit s (clip limit s) := by
  have left : (clip limit s).toList = charsBefore s.toList limit := by
    rw [clip_eq, String.toList_ofList]
  obtain ⟨begins, fits⟩ :=
    prefix_charsBefore_iff.1 (List.prefix_refl (charsBefore s.toList limit))
  refine ⟨?begins, ?fits, ?longest, ?uncut, ?nearlyFull, ?searched⟩
  case begins => rwa [left]
  case fits => rwa [length_encode, left]
  case longest =>
    intro other part short
    rw [length_encode] at short
    rw [left]
    exact prefix_charsBefore_iff.2 ⟨part, short⟩
  case uncut =>
    intro short
    rw [length_encode] at short
    rw [clip_eq, charsBefore_of_width_le short, String.ofList_toList]
  case nearlyFull =>
    intro longer
    rw [length_encode] at longer ⊢
    rw [left]
    exact le_width_charsBefore longer
  case searched =>
    refine ⟨_, ?_, rfl, ?_, ?_⟩
    · exact Nat.le_trans (floorBoundary_le _ _) (Nat.min_le_right _ _)
    · rw [Utf8.encode_eq, floorBoundary?_flatMap]
    · rw [length_encode, clip, Utf8.encode_ofList_eq, Utf8.encode_eq,
        flatMap_charsBefore (isBoundary_floorBoundary _ _)]

/-- Three bytes are free, and the next character has four. -/
example : clip 4 "a𝄞" = "a" := by decide +kernel

end Text

/-- Quoting a text keeps its longest beginning of whole characters. The message of a fault has up to
128 bytes of the cause, separator included, and the fault of a refused answer has up to 256 bytes of
the body, whatever characters these are made of. -/
theorem quotes_longest_beginning :
    (∀ (kind : FaultKind) (cause : Message), ∃ kept,
      (Fault.mk kind (some cause)).message.text = kind.name ++ kept ∧
        Text.Clipped 128 (": " ++ cause.text) kept) ∧
    (∀ body, Text.Clipped 256 body (Text.clip Http.Response.quotedLimit body)) ∧
    ∀ (answer : Http.Response) (address : String), ∃ kept,
      answer.refusal address = .because .nodeFault
        (address ++ " returned " ++ Http.statusText answer.status ++ ": " ++ kept) ∧
        Text.Clipped 256 answer.text kept := by
  refine ⟨?cause, Text.clipped_clip 256, ?answer⟩
  case cause =>
    intro kind cause
    refine ⟨_, ?_, Text.clipped_clip 128 (": " ++ cause.text)⟩
    rw [Fault.message, Message.text_prepend, Message.text_clip, Message.text_prepend]
    rfl
  case answer => exact fun answer address => ⟨_, rfl, Text.clipped_clip 256 answer.text⟩

end ChainIndexer
