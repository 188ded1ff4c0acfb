import ChainIndexer.Operators
import ChainIndexer.Registry

/-! Indexing a height. Everything that can reject a height comes before the first write, and the
block's own row is written last. A height that failed halfway is therefore still missing and can
be done again, and every write may be repeated. -/
namespace ChainIndexer

structure Indexer where
  registry : Registry
  operators : List Operator
  worker : Nat := 0
  /-- A file to read the genesis document from, instead of asking the node. -/
  genesisFile : Option String := none

inductive Stage where
  | fetching
  | resolving
  | persisting
  | done
  deriving DecidableEq, Repr

def Stage.name : Stage → String
  | fetching => "fetching"
  | resolving => "resolving"
  | persisting => "persisting"
  | done => "done"

structure Fetched where
  block : Block
  results : BlockResults
  txs : List Transaction
  validators : ValidatorSet

def unknownSigner (address : Bytes) : Fault :=
  .because .unknownValidator s!"commit signer {(ConsensusAddress.ofRaw address).text} not found"

def ValidatorSet.signature (set : ValidatorSet) (height : Height) (entry : CommitEntry) :
    Except Fault CommitSignature :=
  match set.findByAddress entry.validatorAddress with
  | none => .error (unknownSigner entry.validatorAddress)
  | some v => .ok
    { validatorAddress := .ofRaw entry.validatorAddress
      votingPower := v.votingPower
      proposerPriority := v.proposerPriority
      height
      timestamp := entry.timestamp }

/-- The rows for a commit. One unknown signer fails the whole commit. -/
def ValidatorSet.signatures (set : ValidatorSet) (commit : Commit) :
    Except Fault (List CommitSignature) :=
  (commit.entries.filter CommitEntry.isSigned).mapM (set.signature commit.height)

/-- The signatures over the block before, if the proposer and all signers are known. -/
def Fetched.resolve (data : Fetched) : Except Fault (List CommitSignature) :=
  match data.validators.findByAddress data.block.proposerAddress with
  | none => .error (.because .unknownValidator
      s!"proposer {(ConsensusAddress.ofRaw data.block.proposerAddress).text} not found")
  | some _ => data.validators.signatures data.block.lastCommit

namespace Indexer

open Attempt

def fetchBlock (height : Height) : Attempt Block :=
  within "failed to get block from node" (ask (.block height))

/-- Fetches the transactions of a block. Those without content are reported. -/
def fetchTransactions (b : Block) : Attempt (List Transaction) := do
  let txs ← within "failed to get transactions for block" (ask (.transactions b))
  b.decodingWarnings.forM log
  return txs

def fetch (height : Height) : Attempt Fetched := do
  let block ← fetchBlock height
  let results ← within "failed to get block results from node" (ask (.blockResults height))
  let txs ← fetchTransactions block
  let validators ← within "failed to get validators for block" (ask (.validators height))
  return { block, results, txs, validators }

def saveTransaction (height : Height) (tx : Transaction) : Attempt Unit := do
  let saved ← outcome do
    perform (.saveTx tx)
    perform (.saveMessages tx.messageRows)
  match saved with
  | .ok () => return
  | .error f =>
    log (.txFailed height tx.hash f)
    throw (f.within s!"failed to handle transaction {tx.hash}")

def saveTransactions (height : Height) (txs : List Transaction) : Attempt Unit :=
  txs.forM (saveTransaction height)

/-- Writes all rows of a height but those of the modules and the block's own. -/
def save (height : Height) (rows : Correlated) (signatures : List CommitSignature)
    (txs : List Transaction) : Attempt Unit := do
  within "error while saving validators" (perform (.saveValidators rows.validators))
  within "error while saving validators description" (perform (.saveDescriptions rows.descriptions))
  within "error while saving commit signatures" (perform (.saveCommitSignatures signatures))
  saveTransactions height txs

def callModules (ix : Indexer) (height : Height) (data : Fetched) : Attempt Unit := do
  let failures ← ix.registry.dispatchBlock
    { block := data.block, validators := data.validators, txs := data.txs }
  if failures ≠ 0 then
    log (.warn (.plain
      s!"[worker-{ix.worker}] {failures} block handlers failed at height {height.toNat}"))

def atStage (height : Height) (stage : Stage) (attempt : Attempt α) : Attempt α :=
  within s!"height {height.toNat} failed while {stage.name}" attempt

def processBlock (ix : Indexer) (height : Height) : Attempt Unit := do
  let data ← atStage height .fetching (fetch height)
  let signatures ← atStage height .resolving (liftExcept data.resolve)
  atStage height .persisting
    (save height (correlate ix.operators data.validators) signatures data.txs)
  ix.callModules height data
  atStage height .done (within "failed to persist block"
    (perform (.saveBlock (data.block.toRecord data.results.totalGas))))

def readGenesis (ix : Indexer) : Attempt GenesisDoc := do
  match ix.genesisFile with
  | none => ask .genesis
  | some path =>
    match ← load path with
    | .ok bytes => liftExcept (GenesisDoc.parse bytes)
    | .error reason =>
      throw (.because .resourceNotFound s!"cannot read {path}: {reason}")

def processGenesis (ix : Indexer) : Attempt Unit := do
  let doc ← within "failed to get genesis" ix.readGenesis
  let failures ← ix.registry.dispatchGenesis doc
  if failures ≠ 0 then
    log (.warn (.plain s!"[worker-{ix.worker}] {failures} genesis handlers failed"))

/-- Indexes a height. Height zero stands for the genesis state. -/
def process (ix : Indexer) (height : Height) : Attempt Unit :=
  if height = 0 then ix.processGenesis else ix.processBlock height

/-- Indexes a height unless its block is stored. The genesis state is always indexed. -/
def processIfMissing (ix : Indexer) (height : Height) : Attempt Unit := do
  if height = 0 then ix.process height
  else
    let stored ← within "error while searching for block" (perform (.hasBlock height))
    if stored then return else ix.process height

def processTransactions (height : Height) : Attempt Unit := do
  let block ← fetchBlock height
  let txs ← fetchTransactions block
  saveTransactions height txs

def ofConfig (config : Config) : Except Fault Indexer := do
  return { registry := ← Registry.ofConfig config, operators := config.operators
           genesisFile := config.parser.genesisFilePath }

end Indexer
end ChainIndexer
