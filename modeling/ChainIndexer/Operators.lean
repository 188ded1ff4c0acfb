import ChainIndexer.Config
import ChainIndexer.Store.Rows

/-! Correlation: which operator runs a validator. The curated list is also an allow list, so that
validators it does not name are left out. -/
namespace ChainIndexer

/-- The operator of a validator. The first entry with its address counts. -/
def findOperator (operators : List Operator) (address : ConsensusAddress) : Option Operator :=
  operators.find? fun operator => address.matchesHex operator.rawAddress

structure OperatedValidator where
  validator : ChainValidator
  operator : Operator

namespace OperatedValidator

def identity (v : OperatedValidator) (height : Height) : Validator where
  consensusAddress := .ofRaw v.validator.address
  publicKey := Hex.encodeLower v.validator.publicKey
  operatorAddress := v.operator.operatorAddress
  height := height

def description (v : OperatedValidator) (height : Height) : ValidatorDescription where
  operatorAddress := v.operator.operatorAddress
  consensusAddress := .ofRaw v.validator.address
  moniker := v.operator.moniker
  identity := v.operator.identity
  avatarUrl := v.operator.avatarUrl
  details := v.operator.description
  height := height

end OperatedValidator

/-- The validators of a set whose operator is known, in the order of the set. -/
def ValidatorSet.operated (set : ValidatorSet) (operators : List Operator) :
    List OperatedValidator :=
  set.validators.filterMap fun v =>
    (findOperator operators (.ofRaw v.address)).map fun operator => ⟨v, operator⟩

structure Correlated where
  validators : List Validator
  descriptions : List ValidatorDescription

def correlate (operators : List Operator) (set : ValidatorSet) : Correlated :=
  let operated := set.operated operators
  { validators := operated.map (·.identity set.height)
    descriptions := operated.map (·.description set.height) }

end ChainIndexer
