import ChainIndexer.Chain

/-! The queue of heights that wait to be indexed: first in, first out, of any length. A closed
queue takes no more heights, and those that wait can still be taken out. -/
namespace ChainIndexer

inductive QueueError where
  /-- The queue takes no more heights. -/
  | send
  /-- The queue is closed and empty. -/
  | receive
  deriving DecidableEq, Repr

namespace QueueError

def message : QueueError → String
  | send => "channel send error"
  | receive => "channel recv error"

def fault (e : QueueError) : Fault := .because .channelFault e.message

end QueueError

structure HeightQueue where
  /-- First the height that has waited longest. -/
  waiting : List Height := []
  closed : Bool := false
  senders : Nat := 1
  receivers : Nat := 1
  deriving DecidableEq, Repr

namespace HeightQueue

def pending (q : HeightQueue) : Nat := q.waiting.length

/-- Appends heights, all or none. -/
def sendAll (heights : List Height) (q : HeightQueue) : Except QueueError Unit × HeightQueue :=
  if heights.isEmpty then (.ok (), q)
  else if q.closed then (.error .send, q)
  else (.ok (), { q with waiting := q.waiting ++ heights })

def send (height : Height) (q : HeightQueue) : Except QueueError Unit × HeightQueue :=
  q.sendAll [height]

/-- Closes the queue. The answer is whether it was open. -/
def close (q : HeightQueue) : Bool × HeightQueue := (!q.closed, { q with closed := true })

/-- Takes out the height that has waited longest. It is an error if none will come any more. -/
def tryReceive (q : HeightQueue) : Except QueueError (Option Height) × HeightQueue :=
  match q.waiting with
  | h :: rest => (.ok (some h), { q with waiting := rest })
  | [] => if q.closed then (.error .receive, q) else (.ok none, q)

def addSender (q : HeightQueue) : HeightQueue := { q with senders := q.senders + 1 }

def dropSender (q : HeightQueue) : HeightQueue := { q with senders := q.senders - 1 }

/-- One receiver less. Without receivers a queue is closed. -/
def dropReceiver (q : HeightQueue) : HeightQueue :=
  let receivers := q.receivers - 1
  { q with receivers, closed := q.closed || receivers == 0 }

variable {q : HeightQueue}

theorem sendAll_open (opened : q.closed = false) (heights : List Height) :
    q.sendAll heights = (.ok (), { q with waiting := q.waiting ++ heights }) := by
  cases heights with
  | nil => simp [sendAll]
  | cons height rest => simp [sendAll, opened]

theorem sendAll_closed (closed : q.closed = true) (height : Height) (rest : List Height) :
    q.sendAll (height :: rest) = (.error .send, q) := by
  simp [sendAll, closed]

theorem send_open (opened : q.closed = false) (h : Height) :
    q.send h = (.ok (), { q with waiting := q.waiting ++ [h] }) := sendAll_open opened [h]

theorem send_closed (closed : q.closed = true) (h : Height) : q.send h = (.error .send, q) :=
  sendAll_closed closed h []

end HeightQueue

/-- The heights from one to another, both included, in ascending order. -/
def heightsBetween (first last : Height) : List Height :=
  (List.range' first.toNat (last.toNat + 1 - first.toNat)).map UInt64.ofNat

theorem toNat_heightsBetween (first last : Height) :
    (heightsBetween first last).map UInt64.toNat =
      List.range' first.toNat (last.toNat + 1 - first.toNat) := by
  have bound := last.toNat_lt
  unfold heightsBetween
  rw [List.map_map]
  refine (List.map_congr_left fun n member => ?_).trans (List.map_id _)
  have inside := List.mem_range'_1.1 member
  rw [Function.comp_apply, UInt64.toNat_ofNat_of_lt' (by rw [UInt64.size]; omega), id]

end ChainIndexer
