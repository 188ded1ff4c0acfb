import ChainIndexer.Config
import ChainIndexer.Height.Queue
import ChainIndexer.Height.Signal

/-! Backfill: the heights up to the tip of the chain, in ascending order. Height zero comes first
where the genesis state is wanted. -/
namespace ChainIndexer

structure Backfill where
  genesis : Bool
  first : Height
  blocks : Nat
  deriving DecidableEq, Repr

namespace Backfill

def ofConfig (config : ParserConfig) (tip : Height) : Backfill :=
  let first := max config.startHeight 1
  { genesis := config.parseGenesis
    first
    blocks := if config.parseOldBlocks then tip.toNat + 1 - first.toNat else 0 }

def size (b : Backfill) : Nat := (if b.genesis then 1 else 0) + b.blocks

def get? (b : Backfill) (i : Nat) : Option Height :=
  if i < b.size then
    if b.genesis then some (if i = 0 then 0 else .ofNat (b.first.toNat + (i - 1)))
    else some (.ofNat (b.first.toNat + i))
  else none

def take (b : Backfill) (n : Nat) : List Height := (List.range (min n b.size)).filterMap b.get?

def toList (b : Backfill) : List Height := b.take b.size

/-- Sends all heights, unless the signal is raised. The answer is how many were sent. -/
def send (b : Backfill) (signal : Signal) (q : HeightQueue) : Except QueueError Nat × HeightQueue :=
  if signal.raised then (.ok 0, q)
  else
    match q.sendAll b.toList with
    | (.ok (), q) => (.ok b.size, q)
    | (.error e, q) => (.error e, q)

end Backfill
end ChainIndexer
