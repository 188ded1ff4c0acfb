import ChainIndexer.Height.Backfill
import ChainIndexer.Height.Live
import ChainIndexer.Worker

/-! The service: a pool of workers, the backfill of old heights and the following of new ones. It
can be started once. Stopping it lets the workers finish what waits, then closes the queue and
the store for good. -/
namespace ChainIndexer

inductive Phase where
  | idle
  | running
  | stopped
  deriving DecidableEq, Repr

/-- A service, and how it reaches the outside. -/
structure Service (m : Type → Type) where
  config : ParserConfig
  attempt : {α : Type} → Attempt α → m (Except Fault α)
  report : LogLine → m Unit
  /-- Waits until the producers and the workers have ended. -/
  join : m Unit
  stopNode : m Unit

namespace Service

open Attempt

/-- Finds out the tip of the chain before a start. There is nothing to start while the service
runs. -/
def prepare : Phase → Attempt (Option Height)
  | .stopped => throw (.because .other "parser service stopped")
  | .running => return none
  | .idle => do
    let tip ← within "cannot reach the chain node" (ask .latestHeight)
    match ← outcome (perform .lastBlock) with
    | .ok _ => return some tip
    | .error f =>
      log (.warn (LogLine.faultAfter "[parser] cannot read last stored block: " f))
      return some tip

def backfill (config : ParserConfig) (tip : Height) (p : Pool) : List LogLine × Pool :=
  if config.parseGenesis || config.parseOldBlocks then
    match (Backfill.ofConfig config tip).send p.signal p.queue with
    | (.ok _, queue) => ([], { p with queue })
    | (.error e, queue) =>
      ([.error (LogLine.faultAfter "[producer] backfill failed: " e.fault)], { p with queue })
  else ([], p)

def listen (config : ParserConfig) (tip : Height) (script : List Subscription) (p : Pool) :
    List LogLine × Pool :=
  if config.listenNewBlocks then
    let f := Follower.follow script { lastSeen := tip, queue := p.queue, signal := p.signal }
    (f.logs, { p with queue := f.queue, signal := f.signal })
  else ([], p)

def launch (config : ParserConfig) (tip : Height) (script : List Subscription) (p : Pool) :
    List LogLine × Pool :=
  let p := { p with stats := { p.stats with active := p.stats.active + config.workers.toNat } }
  let (backfilled, p) := backfill config tip p
  let (listened, p) := listen config tip script p
  (backfilled ++ listened, p)

def halt (p : Pool) : Pool := { p with signal := p.signal.raise.2 }

/-- All workers have ended: the queue takes no more heights. -/
def finish (p : Pool) : Pool :=
  { p with queue := p.queue.close.2, stats := { p.stats with active := 0 } }

def closeStore : Attempt Unit := do
  match ← outcome (perform .close) with
  | .ok () => return
  | .error f => log (.error (LogLine.faultAfter "[parser] error closing database: " f))

variable {m : Type → Type} [Monad m] [MonadStateOf Phase m] [MonadStateOf Pool m]

/-- Starts an idle service, given what subscriptions will tell of. -/
def start (s : Service m) (script : List Subscription) : m (Except Fault Unit) := do
  match ← s.attempt (prepare (← getThe Phase)) with
  | .error f => return .error f
  | .ok none => return .ok ()
  | .ok (some tip) =>
    let lines ← modifyGetThe Pool (launch s.config tip script)
    lines.forM s.report
    set Phase.running
    return .ok ()

/-- Stops a running service. The queue stays open until the workers have ended, because they give
back what fails. -/
def stop (s : Service m) : m Unit := do
  if (← getThe Phase) = .running then
    modifyThe Pool halt
    s.join
    modifyThe Pool finish
    s.stopNode
    discard (s.attempt closeStore)
    set Phase.stopped

end Service
end ChainIndexer
