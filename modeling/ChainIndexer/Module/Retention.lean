import ChainIndexer.Config
import ChainIndexer.Module.Data

/-! Retention of blocks. At every height that the interval divides, blocks older than the heights
to keep are removed. -/
namespace ChainIndexer

/-- The height below which blocks are removed once the block at a height is handled, if any are. -/
def PruningConfig.boundary? (config : PruningConfig) (height : Height) : Option Height :=
  if config.keepRecent = 0 ∨ config.interval = 0 then none
  else if height % config.interval ≠ 0 ∨ height ≤ config.keepRecent then none
  else some (height - config.keepRecent)

def Retention.handleBlock (config : PruningConfig) (height : Height) : Attempt Unit :=
  match config.boundary? height with
  | none => return
  | some boundary => do
    Attempt.within s!"failed to prune below {boundary.toNat}" (Attempt.perform (.prune boundary))
    Attempt.perform (.storeLastPruned height)

end ChainIndexer
