import ChainIndexer.Bytes.Hex

/-! Text as UTF-8 bytes. Strict reading refuses malformed bytes. Lenient reading puts one
replacement character for each longest beginning of a character that is not carried on. -/
namespace ChainIndexer.Utf8

def encode (s : String) : Bytes := s.toUTF8.data.toList

/-- What the first bytes are, and what follows them. -/
inductive Head where
  | char (c : Char) (rest : Bytes)
  | malformed (rest : Bytes)

def Head.rest : Head → Bytes
  | .char _ rest => rest
  | .malformed rest => rest

def isContinuation (b : UInt8) : Bool := 0x80 ≤ b && b ≤ 0xBF

/-- The six bits that such a byte adds. -/
def bits (b : UInt8) : Nat := b.toNat % 64

/-- Whether `b` may follow `lead` in a character of three bytes: no longer form of a short
character and no surrogate. -/
def secondOfThree (lead b : UInt8) : Bool :=
  if lead = 0xE0 then 0xA0 ≤ b && b ≤ 0xBF
  else if lead = 0xED then 0x80 ≤ b && b ≤ 0x9F
  else isContinuation b

/-- Whether `b` may follow `lead` in a character of four bytes: nothing beyond the last one. -/
def secondOfFour (lead b : UInt8) : Bool :=
  if lead = 0xF0 then 0x90 ≤ b && b ≤ 0xBF
  else if lead = 0xF4 then 0x80 ≤ b && b ≤ 0x8F
  else isContinuation b

/-- Takes one character off, or the bytes that stand for one replacement. -/
def head (lead : UInt8) (tail : Bytes) : Head :=
  if lead < 0x80 then .char (Char.ofNat lead.toNat) tail
  else if 0xC2 ≤ lead && lead ≤ 0xDF then
    match tail with
    | b :: rest =>
      if isContinuation b then .char (Char.ofNat (lead.toNat % 32 * 64 + bits b)) rest
      else .malformed tail
    | [] => .malformed tail
  else if 0xE0 ≤ lead && lead ≤ 0xEF then
    match tail with
    | b :: c :: rest =>
      if secondOfThree lead b then
        if isContinuation c then
          .char (Char.ofNat (lead.toNat % 16 * 4096 + bits b * 64 + bits c)) rest
        else .malformed (c :: rest)
      else .malformed tail
    | [b] => if secondOfThree lead b then .malformed [] else .malformed tail
    | [] => .malformed tail
  else if 0xF0 ≤ lead && lead ≤ 0xF4 then
    match tail with
    | b :: c :: d :: rest =>
      if secondOfFour lead b then
        if isContinuation c then
          if isContinuation d then
            .char (Char.ofNat (lead.toNat % 8 * 262144 + bits b * 4096 + bits c * 64 + bits d)) rest
          else .malformed (d :: rest)
        else .malformed (c :: d :: rest)
      else .malformed tail
    | [b, c] =>
      if secondOfFour lead b then
        if isContinuation c then .malformed [] else .malformed [c]
      else .malformed tail
    | [b] => if secondOfFour lead b then .malformed [] else .malformed tail
    | [] => .malformed tail
  else .malformed tail

theorem length_rest_head (lead : UInt8) (tail : Bytes) :
    (head lead tail).rest.length ≤ tail.length := by
  unfold head
  split
  · exact Nat.le_refl _
  · repeat' split
    all_goals
      simp only [Head.rest, List.length_cons, List.length_nil]
      omega

/-- The characters, with replacements where the bytes are malformed. `done` holds those already
read, last first. -/
def readLenient (done : List Char) : Bytes → List Char
  | [] => done.reverse
  | lead :: tail =>
    match h : head lead tail with
    | .char c rest =>
      have : rest.length < tail.length + 1 := by
        have := length_rest_head lead tail
        rw [h] at this
        exact Nat.lt_succ_of_le this
      readLenient (c :: done) rest
    | .malformed rest =>
      have : rest.length < tail.length + 1 := by
        have := length_rest_head lead tail
        rw [h] at this
        exact Nat.lt_succ_of_le this
      readLenient ('\uFFFD' :: done) rest
termination_by bs => bs.length

/-- The characters, if no byte is malformed. -/
def readStrict (done : List Char) : Bytes → Option (List Char)
  | [] => some done.reverse
  | lead :: tail =>
    match h : head lead tail with
    | .char c rest =>
      have : rest.length < tail.length + 1 := by
        have := length_rest_head lead tail
        rw [h] at this
        exact Nat.lt_succ_of_le this
      readStrict (c :: done) rest
    | .malformed _ => none
termination_by bs => bs.length

def decodeLenient (bs : Bytes) : String := String.ofList (readLenient [] bs)

def decode? (bs : Bytes) : Option String := (readStrict [] bs).map String.ofList

end ChainIndexer.Utf8
