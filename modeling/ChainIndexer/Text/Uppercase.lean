import ChainIndexer.Text.UppercaseTable

/-! Upper case text, character by character, over the whole of Unicode. -/
namespace ChainIndexer.Text

/-- The upper case form of a character, itself if it has no other. -/
def uppercaseChar (c : Char) : List Char :=
  if c.toNat < 128 then [c.toUpper]
  else
    match uppercaseExpansions.find? (·.1 == c.toNat) with
    | some (_, form) => form.map Char.ofNat
    | none =>
      match uppercaseRuns.find? fun r =>
          r.first ≤ c.toNat && c.toNat ≤ r.last && (c.toNat - r.first) % r.step == 0 with
      | some r => [Char.ofNat (c.toNat + r.shift).toNat]
      | none => [c]

def uppercase (s : String) : String := String.ofList (s.toList.flatMap uppercaseChar)

end ChainIndexer.Text
