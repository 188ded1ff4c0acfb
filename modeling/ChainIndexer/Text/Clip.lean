/-! Cutting a text to a number of bytes. A cut never falls inside a character: it is made at
the last boundary between two characters that is not beyond the limit. -/
namespace ChainIndexer.Text

/-- Bytes the characters take in UTF-8. -/
def width : List Char → Nat
  | [] => 0
  | c :: cs => c.utf8Size + width cs

/-- Whether a byte position lies between two characters. The two ends count. -/
def isBoundary : List Char → Nat → Bool
  | _, 0 => true
  | [], _ + 1 => false
  | c :: cs, n + 1 => c.utf8Size ≤ n + 1 && isBoundary cs (n + 1 - c.utf8Size)

/-- The last boundary not beyond a position, looked for backwards. Position zero is a boundary,
so the search ends there at the latest. -/
def floorBoundary (cs : List Char) : Nat → Nat
  | 0 => 0
  | n + 1 => if isBoundary cs (n + 1) then n + 1 else floorBoundary cs n

/-- The characters that end at or before a byte position. -/
def charsBefore : List Char → Nat → List Char
  | [], _ => []
  | c :: cs, n => if c.utf8Size ≤ n then c :: charsBefore cs (n - c.utf8Size) else []

/-- The longest beginning of the text that takes at most `limit` bytes. -/
def clip (limit : Nat) (s : String) : String :=
  String.ofList (charsBefore s.toList (floorBoundary s.toList (min limit (width s.toList))))

theorem floorBoundary_le (cs : List Char) (n : Nat) : floorBoundary cs n ≤ n := by
  induction n with
  | zero => exact Nat.le_refl 0
  | succ n ih =>
    unfold floorBoundary
    split
    · exact Nat.le_refl _
    · exact Nat.le_succ_of_le ih

theorem isBoundary_floorBoundary (cs : List Char) (n : Nat) :
    isBoundary cs (floorBoundary cs n) = true := by
  induction n with
  | zero => unfold floorBoundary; cases cs <;> rfl
  | succ n ih =>
    unfold floorBoundary
    split
    · assumption
    · exact ih

end ChainIndexer.Text
