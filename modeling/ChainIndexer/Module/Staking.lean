import ChainIndexer.Module.Data

/-! Stake and voting power. Commissions are known from the genesis document; the stake pool, voting
powers and who takes part are observed at each block. -/
namespace ChainIndexer.Staking

open Json (Decoder Record)
open Json.Record (required withDefault nullable)

structure GenesisValidator where
  operatorAddress : String
  rate : String
  minSelfDelegation : String

def commissionDecoder : Decoder String :=
  Decoder.single "commission_rates" (Decoder.single "rate" Decoder.text)

def GenesisValidator.decoder : Decoder GenesisValidator :=
  Record.decoder <| GenesisValidator.mk
    <$> required "operator_address" Decoder.text
    <*> required "commission" commissionDecoder
    <*> withDefault "min_self_delegation" Decoder.text ""

def stateDecoder : Decoder (List GenesisValidator) :=
  (withDefault "validators" (Decoder.list GenesisValidator.decoder) []).decoder

def GenesisValidator.commission (v : GenesisValidator) (height : Height) : ValidatorCommission where
  operatorAddress := v.operatorAddress
  commission := v.rate
  minSelfDelegation := v.minSelfDelegation
  height := height

/-- Stores the commissions, all or none. -/
def handleGenesis (doc : GenesisDoc) : Attempt Unit :=
  match Json.lookup? "staking" doc.appState with
  | none => return
  | some state => do
    let validators ← Attempt.within "bad staking genesis state"
      (liftExcept (Decoder.decodeValue stateDecoder state))
    Attempt.perform (.saveCommissions (validators.map (·.commission doc.initialHeight)))

/-- The stored identity of a validator. Those without one have no known operator. -/
def identify (v : ChainValidator) : Attempt (Option (ChainValidator × Validator)) := do
  return (← Attempt.perform (.validator (.ofRaw v.address))).map (v, ·)

def identifyAll : List ChainValidator → Attempt (List (ChainValidator × Validator))
  | [] => return []
  | v :: vs => do
    match ← identify v with
    | some known => return known :: (← identifyAll vs)
    | none => identifyAll vs

def votingPower (height : Height) (known : ChainValidator × Validator) : ValidatorVotingPower where
  consensusAddress := .ofRaw known.1.address
  operatorAddress := known.2.operatorAddress
  votingPower := known.1.votingPower
  height := height

/-- A member of the set takes part. Nothing more is known of it. -/
def status (height : Height) (known : ChainValidator × Validator) : ValidatorStatus where
  consensusAddress := .ofRaw known.1.address
  operatorAddress := known.2.operatorAddress
  inActiveSet := true
  jailed := none
  tombstoned := none
  height := height

def handleBlock (data : BlockData) : Attempt Unit := do
  let pool ← Attempt.within "failed to get staking pool" (Attempt.ask (.stakingPool data.height))
  Attempt.perform (.saveStakingPool
    { bondedTokens := pool.bonded, notBondedTokens := pool.notBonded, height := data.height })
  let known ← identifyAll data.validators.validators
  Attempt.perform (.saveVotingPowers (known.map (votingPower data.height)))
  Attempt.perform (.saveStatuses (known.map (status data.height)))

end ChainIndexer.Staking
