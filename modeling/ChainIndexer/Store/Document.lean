import ChainIndexer.Store.Rows

/-! Rows as JSON documents: one object a row, with all its columns in a fixed order. -/
namespace ChainIndexer

open Json (Decoder Record)
open Json.Record (required withDefault nullable)

namespace Json

def signed (n : Int64) : Json :=
  .number (if n < 0 then .negative n else .natural n.toUInt64)

def texts (items : List String) : Json := .array (items.map .text)

def ofBool? : Option Bool → Json
  | some b => .bool b
  | none => .null

def ofFloat (x : Float) : Json := .number (.double x.toBits)

/-- A number, whatever way it is kept. -/
def Decoder.float : Decoder Float
  | _, .number (some (.double bits)) => .ok (.ofBits bits)
  | _, .number (some (.natural n)) => .ok n.toFloat
  | _, .number (some (.negative n)) => .ok n.toFloat
  | _, t => Decoder.mismatch "a number" t

def Decoder.signed : Decoder Int64 := fun depth t =>
  (Decoder.integer (.signed 64) depth t).map Int64.ofInt

def Decoder.address : Decoder ConsensusAddress := fun depth t =>
  (Decoder.text depth t).map ConsensusAddress.mk

end Json

def ConsensusAddress.toJson (a : ConsensusAddress) : Json := .text a.text

namespace BlockRecord

def toJson (r : BlockRecord) : Json :=
  .object [("height", .natural r.height), ("hash", .text r.hash), ("num_txs", .natural r.numTxs),
    ("total_gas", .natural r.totalGas), ("proposer_address", r.proposerAddress.toJson),
    ("timestamp", .text r.timestamp)]

def decoder : Decoder BlockRecord :=
  Record.decoder <| BlockRecord.mk
    <$> required "height" Decoder.natural
    <*> required "hash" Decoder.text
    <*> required "num_txs" Decoder.natural
    <*> required "total_gas" Decoder.natural
    <*> required "proposer_address" Decoder.address
    <*> required "timestamp" Decoder.text

end BlockRecord

namespace Transaction

def toJson (tx : Transaction) : Json :=
  .object [("hash", .text tx.hash), ("height", .natural tx.height),
    ("fee", .object
      [("amount", .array (tx.fee.amount.map Coin.toJson)), ("gas", .text tx.fee.gas)]),
    ("memo", .text tx.memo),
    ("messages", .array (tx.messages.map fun m =>
      .object [("type", .text m.type), ("value", m.value)])),
    ("signatures", .array (tx.signatures.map fun s => .object [("signature", .text s)])),
    ("decoded", .bool tx.decoded)]

def decoder : Decoder Transaction :=
  Record.decoder <| Transaction.mk
    <$> required "hash" Decoder.text
    <*> required "height" Decoder.natural
    <*> required "fee" feeDecoder
    <*> required "memo" Decoder.text
    <*> required "messages" (Decoder.list messageDecoder)
    <*> required "signatures" (Decoder.list signatureDecoder)
    <*> required "decoded" Decoder.bool

end Transaction

namespace MessageRow

def toJson (m : MessageRow) : Json :=
  .object [("tx_hash", .text m.txHash), ("index", .natural (.ofNat m.index)),
    ("height", .natural m.height), ("msg_type", .text m.type), ("value", m.value),
    ("involved_accounts", .texts m.involvedAccounts)]

def decoder : Decoder MessageRow :=
  Record.decoder <| MessageRow.mk
    <$> required "tx_hash" Decoder.text
    <*> UInt64.toNat <$> required "index" Decoder.natural
    <*> required "height" Decoder.natural
    <*> required "msg_type" Decoder.text
    <*> required "value" Decoder.value
    <*> required "involved_accounts" (Decoder.list Decoder.text)

end MessageRow

namespace AccountBalance

def toJson (b : AccountBalance) : Json :=
  .object [("address", .text b.address), ("balances", .array (b.balances.map Coin.toJson)),
    ("height", .natural b.height)]

def decoder : Decoder AccountBalance :=
  Record.decoder <| AccountBalance.mk
    <$> required "address" Decoder.text
    <*> required "balances" (Decoder.list Coin.decoder)
    <*> required "height" Decoder.natural

end AccountBalance

namespace BlockTimePeriod

def name : BlockTimePeriod → String
  | genesis => "Genesis"
  | day => "Day"
  | hour => "Hour"
  | minute => "Minute"

def all : List BlockTimePeriod := [genesis, day, hour, minute]

/-- A period is given by its name, alone or as the key of a null. -/
def decoder : Decoder BlockTimePeriod := fun depth t => do
  let name ← Decoder.text depth (match t with
    | .object [(key, .null)] true => .text key
    | t => t)
  match all.find? (·.name == name) with
  | some period => return period
  | none => Decoder.mismatch "a period" t

end BlockTimePeriod

namespace AverageBlockTime

def toJson (a : AverageBlockTime) : Json :=
  .object [("period", .text a.period.name), ("average_time", .ofFloat a.seconds),
    ("height", .natural a.height)]

def decoder : Decoder AverageBlockTime :=
  Record.decoder <| AverageBlockTime.mk
    <$> required "period" BlockTimePeriod.decoder
    <*> required "average_time" Decoder.float
    <*> required "height" Decoder.natural

end AverageBlockTime

namespace Validator

def toJson (v : Validator) : Json :=
  .object [("consensus_address", v.consensusAddress.toJson),
    ("consensus_pubkey", .text v.publicKey), ("operator_address", .text v.operatorAddress),
    ("height", .natural v.height)]

def decoder : Decoder Validator :=
  Record.decoder <| Validator.mk
    <$> required "consensus_address" Decoder.address
    <*> required "consensus_pubkey" Decoder.text
    <*> required "operator_address" Decoder.text
    <*> required "height" Decoder.natural

end Validator

namespace ValidatorDescription

def toJson (d : ValidatorDescription) : Json :=
  .object [("operator_address", .text d.operatorAddress),
    ("consensus_address", d.consensusAddress.toJson), ("moniker", .text d.moniker),
    ("identity", .text d.identity), ("avatar_url", .ofText? d.avatarUrl),
    ("details", .text d.details), ("height", .natural d.height)]

def decoder : Decoder ValidatorDescription :=
  Record.decoder <| ValidatorDescription.mk
    <$> required "operator_address" Decoder.text
    <*> required "consensus_address" Decoder.address
    <*> required "moniker" Decoder.text
    <*> required "identity" Decoder.text
    <*> nullable "avatar_url" Decoder.text
    <*> required "details" Decoder.text
    <*> required "height" Decoder.natural

end ValidatorDescription

namespace ValidatorCommission

def toJson (c : ValidatorCommission) : Json :=
  .object [("operator_address", .text c.operatorAddress), ("commission", .text c.commission),
    ("min_self_delegation", .text c.minSelfDelegation), ("height", .natural c.height)]

def decoder : Decoder ValidatorCommission :=
  Record.decoder <| ValidatorCommission.mk
    <$> required "operator_address" Decoder.text
    <*> required "commission" Decoder.text
    <*> required "min_self_delegation" Decoder.text
    <*> required "height" Decoder.natural

end ValidatorCommission

namespace ValidatorStatus

def toJson (s : ValidatorStatus) : Json :=
  .object [("consensus_address", s.consensusAddress.toJson),
    ("operator_address", .text s.operatorAddress), ("in_active_set", .bool s.inActiveSet),
    ("jailed", .ofBool? s.jailed), ("tombstoned", .ofBool? s.tombstoned),
    ("height", .natural s.height)]

def decoder : Decoder ValidatorStatus :=
  Record.decoder <| ValidatorStatus.mk
    <$> required "consensus_address" Decoder.address
    <*> required "operator_address" Decoder.text
    <*> required "in_active_set" Decoder.bool
    <*> nullable "jailed" Decoder.bool
    <*> nullable "tombstoned" Decoder.bool
    <*> required "height" Decoder.natural

end ValidatorStatus

namespace ValidatorVotingPower

def toJson (p : ValidatorVotingPower) : Json :=
  .object [("consensus_address", p.consensusAddress.toJson),
    ("operator_address", .text p.operatorAddress), ("voting_power", .signed p.votingPower),
    ("height", .natural p.height)]

def decoder : Decoder ValidatorVotingPower :=
  Record.decoder <| ValidatorVotingPower.mk
    <$> required "consensus_address" Decoder.address
    <*> required "operator_address" Decoder.text
    <*> required "voting_power" Decoder.signed
    <*> required "height" Decoder.natural

end ValidatorVotingPower

namespace CommitSignature

def toJson (s : CommitSignature) : Json :=
  .object [("validator_address", s.validatorAddress.toJson),
    ("voting_power", .signed s.votingPower), ("proposer_priority", .signed s.proposerPriority),
    ("height", .natural s.height), ("timestamp", .text s.timestamp)]

def decoder : Decoder CommitSignature :=
  Record.decoder <| CommitSignature.mk
    <$> required "validator_address" Decoder.address
    <*> required "voting_power" Decoder.signed
    <*> required "proposer_priority" Decoder.signed
    <*> required "height" Decoder.natural
    <*> required "timestamp" Decoder.text

end CommitSignature

namespace StakingPool

def toJson (p : StakingPool) : Json :=
  .object [("bonded_tokens", .text p.bondedTokens),
    ("not_bonded_tokens", .text p.notBondedTokens), ("height", .natural p.height)]

def decoder : Decoder StakingPool :=
  Record.decoder <| StakingPool.mk
    <$> required "bonded_tokens" Decoder.text
    <*> required "not_bonded_tokens" Decoder.text
    <*> required "height" Decoder.natural

end StakingPool

namespace Supply

def toJson (s : Supply) : Json :=
  .object [("coins", .array (s.coins.map Coin.toJson)), ("height", .natural s.height)]

def decoder : Decoder Supply :=
  Record.decoder <| Supply.mk
    <$> required "coins" (Decoder.list Coin.decoder)
    <*> required "height" Decoder.natural

end Supply

namespace Inflation

def toJson (i : Inflation) : Json :=
  .object [("value", .text i.value), ("height", .natural i.height)]

def decoder : Decoder Inflation :=
  Record.decoder <| Inflation.mk
    <$> required "value" Decoder.text
    <*> required "height" Decoder.natural

end Inflation

namespace IbcParams

def toJson (p : IbcParams) : Json :=
  .object [("send_enabled", .bool p.sendEnabled), ("receive_enabled", .bool p.receiveEnabled),
    ("height", .natural p.height)]

def decoder : Decoder IbcParams :=
  Record.decoder <| IbcParams.mk
    <$> required "send_enabled" Decoder.bool
    <*> required "receive_enabled" Decoder.bool
    <*> required "height" Decoder.natural

end IbcParams

namespace Genesis

def toJson (g : Genesis) : Json :=
  .object [("chain_id", .text g.chainId), ("time", .text g.time),
    ("initial_height", .natural g.initialHeight)]

def decoder : Decoder Genesis :=
  Record.decoder <| Genesis.mk
    <$> required "chain_id" Decoder.text
    <*> required "time" Decoder.text
    <*> required "initial_height" Decoder.natural

end Genesis
end ChainIndexer
