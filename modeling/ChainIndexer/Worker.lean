import ChainIndexer.Height.Pool
import ChainIndexer.Indexer
import ChainIndexer.Program

/-! Workers. A worker takes heights from the queue, one after the other, until the queue is closed
and empty or the signal is raised while no height waits. What it does is a program, so that the
work of several workers can be interleaved call by call. -/
namespace ChainIndexer

inductive Labour where
  | enter
  | look
  | attempt (height : Height)
  /-- Gives a height back whose attempt failed. -/
  | giveBack (height : Height)
  | record (height : Height) (succeeded : Bool)
  | log (line : LogLine)
  | leave

@[reducible] def Labour.Answer : Labour → Type
  | look => Found
  | attempt _ => Except Fault Unit
  | giveBack _ => Except QueueError Unit
  | enter | record _ _ | log _ | leave => Unit

def labour : Interface := ⟨Labour, Labour.Answer⟩

abbrev Shift := Program labour

namespace Shift

def perform (c : Labour) : Shift c.Answer := Program.perform (I := labour) c

def giveBack (worker : Nat) (height : Height) (f : Fault) : Shift Unit := do
  perform (.log (.error (LogLine.faultAfter
    s!"[worker-{worker}] re-enqueueing failed block {height.toNat}: " f)))
  match ← perform (.giveBack height) with
  | .ok () => return
  | .error e =>
    perform (.log (.warn (.plain s!"[worker-{worker}] block {height.toNat} dropped: {e.message}")))

def handle (worker : Nat) (height : Height) : Shift Unit := do
  match ← perform (.attempt height) with
  | .ok () => perform (.record height true)
  | .error f =>
    giveBack worker height f
    perform (.record height false)

/-- One turn of the loop. The answer is what was found. -/
def turn (worker : Nat) : Shift Found := do
  match ← perform .look with
  | .height h =>
    handle worker h
    return .height h
  | found => return found

/-- Makes up to so many turns. The answer is whether the loop has ended, or waits. -/
def turns (worker : Nat) : Nat → Shift Bool
  | 0 => return false
  | n + 1 => do
    match ← turn worker with
    | .height _ => turns worker n
    | .noMore | .stop | .nothing => return true

def run (worker : Nat) (limit : Nat) : Shift Bool := do
  perform .enter
  let ended ← turns worker limit
  perform .leave
  return ended

end Shift

/-- A worker, and how it works: by attempts at heights that come to a result, and by log lines. -/
structure Worker (m : Type → Type) where
  index : Nat
  attempt : Height → m (Except Fault Unit)
  log : LogLine → m Unit

namespace Worker

variable {m : Type → Type} [Monad m] [MonadStateOf Pool m]

def perform (w : Worker m) : (c : Labour) → m c.Answer
  | .enter => modify Pool.enter
  | .look => modifyGet Pool.take
  | .attempt height => w.attempt height
  | .giveBack height => modifyGet (Pool.giveBack height)
  | .record height succeeded => modify (Pool.record w.index height succeeded)
  | .log line => w.log line
  | .leave => modify Pool.leave

def serve (w : Worker m) {α : Type} (shift : Shift α) : m α :=
  Program.run (I := labour) w.perform shift

def turn (w : Worker m) : m Found := w.serve (Shift.turn w.index)

def turns (w : Worker m) (limit : Nat) : m Bool := w.serve (Shift.turns w.index limit)

def run (w : Worker m) (limit : Nat) : m Bool := w.serve (Shift.run w.index limit)

end Worker
end ChainIndexer
