/-! Texts inside texts, and lists without repetitions. -/
namespace ChainIndexer

namespace Text

def standsIn (part : List Char) : List Char → Bool
  | [] => part.isEmpty
  | c :: cs => part.isPrefixOf (c :: cs) || standsIn part cs

def hasPart (part s : String) : Bool := standsIn part.toList s.toList

def hasEnd (part s : String) : Bool := decide (part.toList <:+ s.toList)

end Text

def appendNew [DecidableEq α] (seen : List α) (x : α) : List α :=
  if x ∈ seen then seen else seen ++ [x]

/-- Each item once, in the order in which the items first come. -/
def firstSeen [DecidableEq α] (xs : List α) : List α := xs.foldl appendNew []

end ChainIndexer
