import ChainIndexer.ConsensusAddress
import ChainIndexer.Json.Record

/-! Chain data as a node answers it. What is stored of it has types of its own. -/
namespace ChainIndexer

/-- Unit of progress of a chain. Height zero stands for the genesis state. -/
abbrev Height := UInt64

structure Coin where
  denom : String
  amount : String
  deriving DecidableEq, Repr

structure CommitEntry where
  validatorAddress : Bytes
  timestamp : String
  signature : Option Bytes
  deriving DecidableEq, Repr

/-- A validator that did not sign has no signature or an empty one. -/
def CommitEntry.isSigned (entry : CommitEntry) : Bool :=
  match entry.signature with
  | some bytes => !bytes.isEmpty
  | none => false

structure Commit where
  height : Height
  entries : List CommitEntry
  deriving DecidableEq, Repr

structure Block where
  height : Height
  hash : String
  chainId : String
  proposerAddress : Bytes
  timestamp : String
  txs : List Bytes
  /-- The signatures over the block before. -/
  lastCommit : Commit
  deriving DecidableEq, Repr

structure TxResult where
  code : UInt32
  gasWanted : UInt64
  gasUsed : UInt64
  log : String
  deriving DecidableEq, Repr

structure BlockResults where
  height : Height
  txResults : List TxResult
  deriving DecidableEq, Repr

/-- A sum that stays at the greatest number instead of passing it. -/
def saturatingAdd (a b : UInt64) : UInt64 :=
  if a.toNat + b.toNat < UInt64.size then a + b else 0xFFFFFFFFFFFFFFFF

def BlockResults.totalGas (r : BlockResults) : UInt64 :=
  r.txResults.foldl (fun sum tx => saturatingAdd sum tx.gasUsed) 0

structure ChainValidator where
  address : Bytes
  publicKey : Bytes
  votingPower : Int64
  proposerPriority : Int64
  deriving DecidableEq, Repr

structure ValidatorSet where
  height : Height
  validators : List ChainValidator
  deriving DecidableEq, Repr

def ValidatorSet.findByAddress (set : ValidatorSet) (address : Bytes) : Option ChainValidator :=
  set.validators.find? (·.address == address)

structure StakingTotals where
  bonded : String
  notBonded : String
  deriving DecidableEq, Repr

structure TransferParams where
  sendEnabled : Bool
  receiveEnabled : Bool
  deriving DecidableEq, Repr

structure GenesisDoc where
  chainId : String
  time : String
  initialHeight : Height
  /-- State of the application, one entry a chain module. -/
  appState : List (String × Json)

open Json (Decoder Record)
open Json.Record (required withDefault nullable)

def Coin.decoder : Decoder Coin :=
  Record.decoder <| Coin.mk
    <$> required "denom" Decoder.text
    <*> required "amount" Decoder.text

def Coin.toJson (c : Coin) : Json := .object [("denom", .text c.denom), ("amount", .text c.amount)]

def StakingTotals.decoder : Decoder StakingTotals :=
  Record.decoder <| StakingTotals.mk
    <$> required "bonded_tokens" Decoder.text
    <*> required "not_bonded_tokens" Decoder.text

def StakingTotals.toJson (t : StakingTotals) : Json :=
  .object [("bonded_tokens", .text t.bonded), ("not_bonded_tokens", .text t.notBonded)]

def TransferParams.decoder : Decoder TransferParams :=
  Record.decoder <| TransferParams.mk
    <$> required "send_enabled" Decoder.bool
    <*> required "receive_enabled" Decoder.bool

def TransferParams.toJson (p : TransferParams) : Json :=
  .object [("send_enabled", .bool p.sendEnabled), ("receive_enabled", .bool p.receiveEnabled)]

namespace GenesisDoc

def decoder : Decoder GenesisDoc :=
  Record.decoder <| GenesisDoc.mk
    <$> required "chain_id" Decoder.text
    <*> required "genesis_time" Decoder.text
    <*> withDefault "initial_height" Decoder.naturalOrText 1
    <*> withDefault "app_state" Decoder.valueFields []

def toJson (doc : GenesisDoc) : Json :=
  .object [("chain_id", .text doc.chainId), ("genesis_time", .text doc.time),
    ("initial_height", .natural doc.initialHeight), ("app_state", .object doc.appState)]

def parse (bs : Bytes) : Except Fault GenesisDoc := Decoder.decode decoder bs

end GenesisDoc
end ChainIndexer
