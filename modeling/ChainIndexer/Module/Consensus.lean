import ChainIndexer.Module.Data

/-! How the chain began, and how much time passes between its blocks. The average over a period is
the time since the lowest stored block of the period, divided by the heights in between. -/
namespace ChainIndexer.Consensus

structure Mark where
  time : Instant
  height : Height
  deriving DecidableEq, Repr

/-- Seconds between two blocks on the average, from a lower block to a higher one. -/
def averageSeconds (mark since : Mark) : Option Float :=
  if mark.height ≤ since.height then none
  else
    let elapsed := (Int64.ofInt (mark.time.millisSince since.time)).toFloat / 1000.0
    some (elapsed / (mark.height - since.height).toFloat)

def saveAverage (period : BlockTimePeriod) (mark since : Mark) : Attempt Unit :=
  match averageSeconds mark since with
  | some seconds =>
    Attempt.perform (.saveAverageBlockTime { period, seconds, height := mark.height })
  | none => return

def windows : List (BlockTimePeriod × Nat) := [(.day, 86400), (.hour, 3600), (.minute, 60)]

def measureWindow (mark : Mark) (window : BlockTimePeriod × Nat) : Attempt Unit := do
  match ← Attempt.blockSince (mark.time.before window.2) with
  | none => return
  | some b =>
    let time ← liftExcept (Timestamp.parse b.timestamp)
    saveAverage window.1 mark ⟨time, b.height⟩

def measureSinceGenesis (mark : Mark) : Attempt Unit := do
  match ← Attempt.perform .genesis with
  | none => return
  | some genesis =>
    let time ← liftExcept (Timestamp.parse genesis.time)
    saveAverage .genesis mark ⟨time, genesis.initialHeight⟩

def handleGenesis (doc : GenesisDoc) : Attempt Unit :=
  Attempt.perform (.saveGenesis
    { chainId := doc.chainId, time := doc.time, initialHeight := doc.initialHeight })

def handleBlock (b : Block) : Attempt Unit := do
  let time ← liftExcept (Timestamp.parse b.timestamp)
  let mark := ⟨time, b.height⟩
  measureSinceGenesis mark
  windows.forM (measureWindow mark)

end ChainIndexer.Consensus
