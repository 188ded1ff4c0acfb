import ChainIndexer.Fault

/-! Log lines. Failures are written as key and value pairs, so that they can be searched for. -/
namespace ChainIndexer

inductive LogLevel where
  | off
  | error
  | warn
  | info
  | debug
  | trace
  deriving DecidableEq, Repr

namespace LogLevel

def all : List LogLevel := [off, error, warn, info, debug, trace]

def name : LogLevel → String
  | off => "OFF"
  | error => "ERROR"
  | warn => "WARN"
  | info => "INFO"
  | debug => "DEBUG"
  | trace => "TRACE"

def ofName? (s : String) : Option LogLevel :=
  all.find? fun level => s.toList.map Char.toUpper == level.name.toList

end LogLevel

structure LogLine where
  level : LogLevel
  message : Message
  deriving DecidableEq, Repr

namespace LogLine

def error (m : Message) : LogLine := ⟨.error, m⟩
def warn (m : Message) : LogLine := ⟨.warn, m⟩

def faultAfter (words : String) (f : Fault) : Message := f.message.prepend words

def genesisFailed (moduleName : String) (f : Fault) : LogLine :=
  error (faultAfter s!"[module] error while handling genesis module={moduleName} err=" f)

def blockFailed (moduleName : String) (height : UInt64) (f : Fault) : LogLine :=
  error (faultAfter
    s!"[module] error while handling block module={moduleName} height={height.toNat} err=" f)

def txFailed (height : UInt64) (hash : String) (f : Fault) : LogLine :=
  error (faultAfter
    s!"[worker] error while handling tx height={height.toNat} tx_hash={hash} err=" f)

end LogLine
end ChainIndexer
