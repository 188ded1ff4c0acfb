import ChainIndexer.Height.Queue
import ChainIndexer.Height.Signal
import ChainIndexer.Log

/-! Following the tip of the chain. A subscription tells of new blocks as they come; heights that it
jumps over are sent too, so that the heights sent have no gap. When a subscription ends another
one is taken out. -/
namespace ChainIndexer

/-- What others do to the queue and the signal in the meantime. -/
inductive Interference where
  | signalRaised
  | queueClosed
  deriving DecidableEq, Repr

inductive Happening where
  | newBlock (height : Height)
  | failure (f : Fault)
  | interference (i : Interference)
  | silence
  deriving DecidableEq, Repr

structure Subscription where
  /-- What others do before there is an answer. -/
  meanwhile : List Interference := []
  /-- A refusal, or what happens until the subscription ends. -/
  outcome : Except Fault (List Happening)

structure Follower where
  lastSeen : Height
  queue : HeightQueue := {}
  signal : Signal := {}
  subscriptions : Nat := 0
  /-- Log lines, last first. -/
  reported : List LogLine := []
  deriving DecidableEq, Repr

namespace Follower

def report (f : Follower) (line : LogLine) : Follower := { f with reported := line :: f.reported }

/-- Sends the heights after the last one seen, up to a newer one. The answer is whether the queue
took them. There is a height after the last one seen, since there is a newer one. -/
def advance (f : Follower) (height : Height) (_newer : f.lastSeen < height) : Bool × Follower :=
  match f.queue.sendAll (heightsBetween (f.lastSeen + 1) height) with
  | (.ok (), queue) => (true, { f with queue, lastSeen := height })
  | (.error e, queue) =>
    (false, { f with queue }.report
      (.warn (.plain s!"[producer] heights queue unavailable: {e.message}")))

def suffer (f : Follower) : Interference → Follower
  | .signalRaised => { f with signal := f.signal.raise.2 }
  | .queueClosed => { f with queue := f.queue.close.2 }

/-- Takes in one thing that happens in a subscription. The answer is whether following goes on. A
subscription that goes silent, or a queue that takes no heights, ends it. -/
def notice (f : Follower) : Happening → Bool × Follower
  | .newBlock height => if newer : f.lastSeen < height then f.advance height newer else (true, f)
  | .failure fault =>
    (true, f.report (.warn (LogLine.faultAfter "[producer] new blocks error: " fault)))
  | .interference i => (true, f.suffer i)
  | .silence => (false, f)

def observe : List Happening → Follower → Bool × Follower
  | [], f => (true, f)
  | happening :: rest, f =>
    match f.notice happening with
    | (true, f) => observe rest f
    | (false, f) => (false, f)

def ask (f : Follower) (subscription : Subscription) : Follower :=
  subscription.meanwhile.foldl suffer { f with subscriptions := f.subscriptions + 1 }

/-- Goes through a subscription, unless the signal is raised. The answer is whether following goes
on. -/
def attend (f : Follower) (subscription : Subscription) : Bool × Follower :=
  if f.signal.raised then (false, f)
  else
    match subscription.outcome with
    | .error fault =>
      (true, (f.ask subscription).report
        (.error (LogLine.faultAfter "[producer] cannot subscribe to new blocks: " fault)))
    | .ok happenings => (f.ask subscription).observe happenings

def follow : List Subscription → Follower → Follower
  | [], f => f
  | subscription :: rest, f =>
    match f.attend subscription with
    | (true, f) => follow rest f
    | (false, f) => f

def logs (f : Follower) : List LogLine := f.reported.reverse

end Follower
end ChainIndexer
