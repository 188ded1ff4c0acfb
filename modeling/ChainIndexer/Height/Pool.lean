import ChainIndexer.Height.Queue
import ChainIndexer.Height.Signal

/-! What the workers of a pool share: the queue they drain, the signal that stops them, and the
gauges they keep. A height that failed goes back to the end of the queue. -/
namespace ChainIndexer

structure Stats where
  active : Nat := 0
  /-- Heights done, those skipped included. -/
  processed : Nat := 0
  failed : Nat := 0
  lastHeight : Nat → Option Height := fun _ => none

namespace Stats

def record (s : Stats) (worker : Nat) (height : Height) (succeeded : Bool) : Stats where
  active := s.active
  processed := if succeeded then s.processed + 1 else s.processed
  failed := if succeeded then s.failed else s.failed + 1
  lastHeight := fun i => if i = worker then some height else s.lastHeight i

end Stats

structure Pool where
  queue : HeightQueue := {}
  signal : Signal := {}
  stats : Stats := {}

inductive Found where
  | height (h : Height)
  /-- No height waits, and none will come. -/
  | noMore
  /-- No height waits, and the signal is raised. -/
  | stop
  | nothing
  deriving DecidableEq, Repr

namespace Pool

/-- Looks for work. A height that waits is taken even if the signal is raised. -/
def take (p : Pool) : Found × Pool :=
  match p.queue.tryReceive with
  | (.ok (some h), queue) => (.height h, { p with queue })
  | (.error _, _) => (.noMore, p)
  | (.ok none, _) => (if p.signal.raised then .stop else .nothing, p)

/-- Gives a height back that was taken out and could not be done, if the queue still takes it. -/
def giveBack (height : Height) (p : Pool) : Except QueueError Unit × Pool :=
  let (answer, queue) := p.queue.send height
  (answer, { p with queue })

def record (worker : Nat) (height : Height) (succeeded : Bool) (p : Pool) : Pool :=
  { p with stats := p.stats.record worker height succeeded }

def enter (p : Pool) : Pool := { p with stats := { p.stats with active := p.stats.active + 1 } }

def leave (p : Pool) : Pool := { p with stats := { p.stats with active := p.stats.active - 1 } }

end Pool
end ChainIndexer
