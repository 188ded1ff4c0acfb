import ChainIndexer.Message

/-! Faults. A fault has a kind, which callers act on, and may have a cause, which people read.
Passing a fault on adds words to the cause and never changes the kind. -/
namespace ChainIndexer

/-- What went wrong, as far as a caller has to know. -/
inductive FaultKind where
  | malformedData
  /-- The chain node cannot be reached or answered with a failure. -/
  | nodeFault
  /-- A proposer or a commit signer is not in the validator set. -/
  | unknownValidator
  | databaseFault
  | moduleFault
  | badConfig
  | resourceNotFound
  | channelFault
  | other
  deriving DecidableEq, Repr

def FaultKind.name : FaultKind → String
  | .malformedData => "malformed data"
  | .nodeFault => "node fault"
  | .unknownValidator => "unknown validator"
  | .databaseFault => "database fault"
  | .moduleFault => "module fault"
  | .badConfig => "bad config"
  | .resourceNotFound => "resource not found"
  | .channelFault => "channel fault"
  | .other => "other"

structure Fault where
  kind : FaultKind
  cause : Option Message := none
  deriving DecidableEq, Repr

namespace Fault

/-- Bytes of the cause, separator included, that a full message keeps. -/
def causeLimit : Nat := 128

def because (kind : FaultKind) (words : String) : Fault := ⟨kind, some (.plain words)⟩

def undecodable (diagnosis : String) : Fault := ⟨.malformedData, some (.ofDiagnosis diagnosis)⟩

def ofText (words : String) : Fault := because .other words

/-- The fault as seen from further out: what was being done comes before the cause. -/
def within (doing : String) (f : Fault) : Fault :=
  { f with cause := some (match f.cause with
      | some cause => cause.prepend (doing ++ ": ")
      | none => .plain doing) }

/-- The kind, then the cause as far as `causeLimit` allows. -/
def message (f : Fault) : Message :=
  match f.cause with
  | some cause => ((cause.prepend ": ").clip causeLimit).prepend f.kind.name
  | none => .plain f.kind.name

/-- Whether two faults are of one kind and say the same cause. -/
def agrees (f g : Fault) : Bool :=
  f.kind == g.kind && f.cause.map Message.text == g.cause.map Message.text

@[simp] theorem kind_within (doing : String) (f : Fault) : (f.within doing).kind = f.kind := rfl

end Fault
end ChainIndexer
