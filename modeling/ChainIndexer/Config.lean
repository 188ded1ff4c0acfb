import ChainIndexer.Json.Record
import ChainIndexer.Log

/-! The configuration, a JSON document. Every section and every setting may be left out and then
has its default; only entries of the operator list have settings that must be given. -/
namespace ChainIndexer

structure NodeConfig where
  rpcAddress : String := "http://localhost:26657"
  apiAddress : String := "http://localhost:1317"
  maxConnections : UInt64 := 20
  requestTimeoutSecs : UInt64 := 30
  pollIntervalSecs : UInt64 := 1
  deriving DecidableEq, Repr

structure ParserConfig where
  workers : UInt64 := 1
  listenNewBlocks : Bool := true
  parseOldBlocks : Bool := true
  parseGenesis : Bool := true
  /-- The first of the old heights. -/
  startHeight : UInt64 := 1
  /-- A genesis document to read instead of asking the node. -/
  genesisFilePath : Option String := none
  deriving DecidableEq, Repr

structure PruningConfig where
  /-- Heights to keep. Zero keeps all. -/
  keepRecent : UInt64 := 100
  /-- Heights from one pruning to the next. -/
  interval : UInt64 := 10
  deriving DecidableEq, Repr

structure Operator where
  /-- The consensus address, in hexadecimal. -/
  rawAddress : String
  operatorAddress : String
  moniker : String
  identity : String := ""
  description : String := ""
  avatarUrl : Option String := none
  deriving DecidableEq, Repr

structure Config where
  /-- Modules to enable, in the order in which they are called. -/
  modules : List String := []
  node : NodeConfig := {}
  parser : ParserConfig := {}
  pruning : PruningConfig := {}
  logLevel : String := "debug"
  operators : List Operator := []
  deriving DecidableEq, Repr

open Json (Decoder Record)
open Json.Record (required withDefault nullable)

def NodeConfig.decoder : Decoder NodeConfig :=
  let base : NodeConfig := {}
  Record.decoder <| NodeConfig.mk
    <$> withDefault "rpc_address" Decoder.text base.rpcAddress
    <*> withDefault "api_address" Decoder.text base.apiAddress
    <*> withDefault "max_connections" Decoder.natural base.maxConnections
    <*> withDefault "request_timeout_secs" Decoder.natural base.requestTimeoutSecs
    <*> withDefault "poll_interval_secs" Decoder.natural base.pollIntervalSecs

def ParserConfig.decoder : Decoder ParserConfig :=
  let base : ParserConfig := {}
  Record.decoder <| ParserConfig.mk
    <$> withDefault "workers" Decoder.natural base.workers
    <*> withDefault "listen_new_blocks" Decoder.bool base.listenNewBlocks
    <*> withDefault "parse_old_blocks" Decoder.bool base.parseOldBlocks
    <*> withDefault "parse_genesis" Decoder.bool base.parseGenesis
    <*> withDefault "start_height" Decoder.natural base.startHeight
    <*> withDefault "genesis_file_path" (Decoder.optional Decoder.text) none

def PruningConfig.decoder : Decoder PruningConfig :=
  let base : PruningConfig := {}
  Record.decoder <| PruningConfig.mk
    <$> withDefault "keep_recent" Decoder.natural base.keepRecent
    <*> withDefault "interval" Decoder.natural base.interval

def Operator.decoder : Decoder Operator :=
  Record.decoder <| Operator.mk
    <$> required "raw_address" Decoder.text
    <*> required "operator_address" Decoder.text
    <*> required "moniker" Decoder.text
    <*> withDefault "identity" Decoder.text ""
    <*> withDefault "description" Decoder.text ""
    <*> withDefault "avatar_url" (Decoder.optional Decoder.text) none

def sectionDecoder (name : String) (item : Decoder α) (default : α) : Decoder α :=
  (withDefault name item default).decoder

namespace Config

def decoder : Decoder Config :=
  let base : Config := {}
  Record.decoder <| Config.mk
    <$> withDefault "chain" (sectionDecoder "modules" (Decoder.list Decoder.text) []) base.modules
    <*> withDefault "node" NodeConfig.decoder base.node
    <*> withDefault "parser" ParserConfig.decoder base.parser
    <*> withDefault "pruning" PruningConfig.decoder base.pruning
    <*> withDefault "logging" (sectionDecoder "level" Decoder.text base.logLevel) base.logLevel
    <*> withDefault "validators" (Decoder.list Operator.decoder) base.operators

def levelOf (name : String) : Except Fault LogLevel :=
  match LogLevel.ofName? name with
  | some level => .ok level
  | none => .error (.because .badConfig s!"invalid log level '{name}'")

def level (c : Config) : Except Fault LogLevel := levelOf c.logLevel

def validate (c : Config) : Except Fault Unit := do
  if c.parser.workers = 0 then
    throw (.because .badConfig "at least one worker is required")
  if c.pruning.interval = 0 then
    throw (.because .badConfig "pruning interval must be greater than zero")
  discard c.level

def badConfig (f : Fault) : Fault := ⟨.badConfig, some f.message⟩

def check (read : Except Fault Config) : Except Fault Config := do
  let c ← read.mapError badConfig
  c.validate
  return c

def parse (bs : Bytes) : Except Fault Config := check (Decoder.decode decoder bs)

def ofJson (v : Json) : Except Fault Config := check (Decoder.decodeValue decoder v)

/-- The same from a file, given what reading the file came to: its bytes or the system's reason. -/
def parseFile (path : String) (content : Except String Bytes) : Except Fault Config :=
  match content with
  | .ok bs => parse bs
  | .error reason => .error (.because .badConfig s!"cannot read {path}: {reason}")

end Config

/-! Writing, with every setting given. -/

def NodeConfig.toJson (c : NodeConfig) : Json :=
  .object [("rpc_address", .text c.rpcAddress), ("api_address", .text c.apiAddress),
    ("max_connections", .natural c.maxConnections),
    ("request_timeout_secs", .natural c.requestTimeoutSecs),
    ("poll_interval_secs", .natural c.pollIntervalSecs)]

def ParserConfig.toJson (c : ParserConfig) : Json :=
  .object [("workers", .natural c.workers), ("listen_new_blocks", .bool c.listenNewBlocks),
    ("parse_old_blocks", .bool c.parseOldBlocks), ("parse_genesis", .bool c.parseGenesis),
    ("start_height", .natural c.startHeight),
    ("genesis_file_path", .ofText? c.genesisFilePath)]

def PruningConfig.toJson (c : PruningConfig) : Json :=
  .object [("keep_recent", .natural c.keepRecent), ("interval", .natural c.interval)]

def Operator.toJson (o : Operator) : Json :=
  .object [("raw_address", .text o.rawAddress), ("operator_address", .text o.operatorAddress),
    ("moniker", .text o.moniker), ("identity", .text o.identity),
    ("description", .text o.description), ("avatar_url", .ofText? o.avatarUrl)]

def Config.toJson (c : Config) : Json :=
  .object [("chain", .object [("modules", .array (c.modules.map .text))]),
    ("node", c.node.toJson), ("parser", c.parser.toJson), ("pruning", c.pruning.toJson),
    ("logging", .object [("level", .text c.logLevel)]),
    ("validators", .array (c.operators.map Operator.toJson))]

end ChainIndexer
