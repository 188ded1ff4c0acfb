import ChainIndexer.Node.Query
import ChainIndexer.Program
import ChainIndexer.Store

/-! Attempts: programs that ask a node, use the store, read files and write log lines, and that may
fail. What has been stored before a failure stays stored. -/
namespace ChainIndexer

inductive Effect where
  | ask (query : Query)
  | perform (op : Operation)
  | load (path : String)
  | log (line : LogLine)

/-- What the outside answers. A file that cannot be read comes with the system's reason. -/
@[reducible] def Effect.Answer : Effect → Type
  | ask query => Except Fault query.Answer
  | perform op => Except Fault op.Answer
  | load _ => Except String Bytes
  | log _ => Unit

def effects : Interface := ⟨Effect, Effect.Answer⟩

abbrev Attempt := ExceptT Fault (Program effects)

namespace Attempt

def ask (query : Query) : Attempt query.Answer := .mk (Program.perform (I := effects) (.ask query))

def perform (op : Operation) : Attempt op.Answer :=
  .mk (Program.perform (I := effects) (.perform op))

def load (path : String) : Attempt (Except String Bytes) :=
  .lift (Program.perform (I := effects) (.load path))

def log (line : LogLine) : Attempt Unit :=
  .lift (Program.perform (I := effects) (.log line))

def within (doing : String) (attempt : Attempt α) : Attempt α :=
  attempt.adapt (Fault.within doing)

/-- What an attempt came to, as a value. -/
def outcome (attempt : Attempt α) : Attempt (Except Fault α) := .lift attempt.run

/-- The lowest stored block that is not before a time. Blocks without readable time are
reported. -/
def blockSince (time : Instant) : Attempt (Option BlockRecord) := do
  let search ← perform (.blockSince time)
  search.warnings.forM log
  return search.found

end Attempt
end ChainIndexer
