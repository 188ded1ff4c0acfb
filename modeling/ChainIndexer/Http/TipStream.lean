import ChainIndexer.Http.Client

/-! Following the tip of a remote chain by asking for it again and again. The heights between two
tips come one by one. A failure comes once and ends the stream; so does stopping the client. -/
namespace ChainIndexer.Http

structure TipStream where
  next : Height
  tip : Height
  failed : Bool := false
  deriving DecidableEq, Repr

inductive Drawn where
  | height (h : Height)
  /-- The tip has to be asked for first. -/
  | needsTip
  | ended
  deriving DecidableEq, Repr

inductive Turn where
  | event (e : Except Fault Height)
  /-- The tip was asked for, and there may be more to come. -/
  | again
  | ended
  deriving Repr

namespace TipStream

def after (tip : Height) : TipStream := { next := tip + 1, tip }

/-- Draws from the stream, given whether the client has been stopped. -/
def draw (stopped : Bool) (s : TipStream) : Drawn × TipStream :=
  if s.failed || stopped then (.ended, s)
  else if s.next ≤ s.tip then (.height s.next, { s with next := s.next + 1 })
  else (.needsTip, s)

/-- Takes in an answer to the question for the tip. A fault is passed on. -/
def learn (answer : Except Fault Height) (s : TipStream) : Option Fault × TipStream :=
  match answer with
  | .ok height => (none, { s with tip := max s.tip height })
  | .error f => (some f, { s with failed := true })

end TipStream

namespace Remote

/-- Subscribes to new blocks: the stream starts after the tip of now. -/
def subscribe (node : Remote) : Client TipStream := do return .after (← node.latestHeight)

/-- Asks for the tip. The status of the answer does not matter, and its bytes are read as they
are. -/
def poll (node : Remote) : Client Height := do
  let response ← send { url := ← liftExcept (readUrl (node.rpcAddress ++ "/status")) }
  let reply ← liftExcept (Json.Decoder.decode (Reply.decoder statusDecoder) response.body)
  liftExcept reply.get

def turn (node : Remote) (s : TipStream) : Program web (Turn × TipStream) :=
  match s.draw node.stopped with
  | (.height h, s) => return (.event (.ok h), s)
  | (.ended, s) => return (.ended, s)
  | (.needsTip, s) => do
    match s.learn (← node.poll.run) with
    | (none, s) => return (.again, s)
    | (some f, s) => return (.event (.error f), s)

end Remote
end ChainIndexer.Http
