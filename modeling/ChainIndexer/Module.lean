import ChainIndexer.Module.Bank
import ChainIndexer.Module.Consensus
import ChainIndexer.Module.Parameters
import ChainIndexer.Module.Retention
import ChainIndexer.Module.Staking

/-! Modules. Each one keeps tables of its own up to date. A module has handlers for the genesis
document, for blocks, or for both. -/
namespace ChainIndexer

inductive Module where
  | consensus
  | staking
  | bank
  | mint
  | ibc
  | pruning (config : PruningConfig)
  deriving DecidableEq, Repr

namespace Module

def name : Module → String
  | consensus => "consensus"
  | staking => "staking"
  | bank => "bank"
  | mint => "mint"
  | ibc => "ibc"
  | pruning _ => "pruning"

def all (config : PruningConfig) : List Module :=
  [consensus, staking, bank, mint, ibc, pruning config]

def ofName? (config : PruningConfig) (name : String) : Option Module :=
  (all config).find? (·.name == name)

def genesisHandler? : Module → Option (GenesisDoc → Attempt Unit)
  | consensus => some Consensus.handleGenesis
  | staking => some Staking.handleGenesis
  | bank | mint | ibc | pruning _ => none

def blockHandler? : Module → Option (BlockData → Attempt Unit)
  | consensus => some fun data => Consensus.handleBlock data.block
  | staking => some Staking.handleBlock
  | bank => some Bank.handleBlock
  | mint => some fun data => Mint.handleBlock data.height
  | ibc => some fun data => Ibc.handleBlock data.height
  | pruning config => some fun data => Retention.handleBlock config data.height

def fault (m : Module) (f : Fault) : Fault :=
  ⟨.moduleFault, some (f.message.prepend (m.name ++ ": "))⟩

end Module
end ChainIndexer
