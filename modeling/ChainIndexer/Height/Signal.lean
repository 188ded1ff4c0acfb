/-! The signal to stop. It is raised once, by its owner or when the owner goes, and stays raised;
everyone else only observes it. -/
namespace ChainIndexer

structure Signal where
  raised : Bool := false
  owned : Bool := true
  deriving DecidableEq, Repr

namespace Signal

/-- Raises the signal. The answer is whether it was not raised before. -/
def raise (s : Signal) : Bool × Signal := (!s.raised, { s with raised := true })

def release (s : Signal) : Signal := { s.raise.2 with owned := false }

end Signal
end ChainIndexer
