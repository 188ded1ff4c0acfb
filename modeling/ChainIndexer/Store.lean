import ChainIndexer.Store.Tables

/-! The store. Everything done to it is an operation. A closed store refuses operations and stays
as it is; its rows can still be looked at. -/
namespace ChainIndexer

inductive Operation where
  | hasBlock (height : Height)
  | saveBlock (row : BlockRecord)
  | lastBlockHeight
  | lastBlock
  | blockSince (time : Instant)
  | saveTx (row : Transaction)
  | saveMessages (rows : List MessageRow)
  | saveValidators (rows : List Validator)
  | validator (address : ConsensusAddress)
  | saveDescriptions (rows : List ValidatorDescription)
  | saveCommissions (rows : List ValidatorCommission)
  | saveStatuses (rows : List ValidatorStatus)
  | saveVotingPowers (rows : List ValidatorVotingPower)
  | saveCommitSignatures (rows : List CommitSignature)
  | saveGenesis (row : Genesis)
  | genesis
  | saveStakingPool (row : StakingPool)
  | saveSupply (row : Supply)
  | saveInflation (row : Inflation)
  | saveIbcParams (row : IbcParams)
  | saveBalances (rows : List AccountBalance)
  | saveAverageBlockTime (row : AverageBlockTime)
  /-- Removes what belongs to heights below this one. -/
  | prune (height : Height)
  | storeLastPruned (height : Height)
  | lastPruned
  | close

namespace Operation

@[reducible] def Answer : Operation → Type
  | hasBlock _ => Bool
  | lastBlockHeight => Option Height
  | lastBlock => Option BlockRecord
  | blockSince _ => SearchByTime
  | validator _ => Option Validator
  | genesis => Option Genesis
  | lastPruned => Option Height
  | _ => Unit

/-- Operations that a closed store still accepts: to close it again, and to write no rows. -/
def acceptedWhenClosed : Operation → Bool
  | close => true
  | saveMessages rows => rows.isEmpty
  | saveValidators rows => rows.isEmpty
  | saveDescriptions rows => rows.isEmpty
  | saveCommissions rows => rows.isEmpty
  | saveStatuses rows => rows.isEmpty
  | saveVotingPowers rows => rows.isEmpty
  | saveCommitSignatures rows => rows.isEmpty
  | saveBalances rows => rows.isEmpty
  | _ => false

def answer (t : Tables) : (op : Operation) → op.Answer
  | hasBlock height => t.blocks.contains height
  | lastBlockHeight => t.blocks.last?.map (·.height)
  | lastBlock => t.blocks.last?
  | blockSince time => t.blockSince time
  | validator address => t.validators.get? address
  | genesis => t.genesis
  | lastPruned => t.lastPruned
  | saveBlock _ | saveTx _ | saveMessages _ | saveValidators _ | saveDescriptions _
  | saveCommissions _ | saveStatuses _ | saveVotingPowers _ | saveCommitSignatures _
  | saveGenesis _ | saveStakingPool _ | saveSupply _ | saveInflation _ | saveIbcParams _
  | saveBalances _ | saveAverageBlockTime _ | prune _ | storeLastPruned _ | close => ()

def effect (t : Tables) : Operation → Tables
  | saveBlock row => { t with blocks := t.blocks.writeOnce row }
  | saveTx row => { t with txs := t.txs.writeOnce row }
  | saveMessages rows => { t with messages := t.messages.writeAllOnce rows }
  | saveCommitSignatures rows =>
    { t with commitSignatures := t.commitSignatures.writeAllOnce rows }
  | saveValidators rows => { t with validators := t.validators.writeAllLatest (·.height) rows }
  | saveDescriptions rows =>
    { t with descriptions := t.descriptions.writeAllLatest (·.height) rows }
  | saveCommissions rows => { t with commissions := t.commissions.writeAllLatest (·.height) rows }
  | saveStatuses rows => { t with statuses := t.statuses.writeAllLatest (·.height) rows }
  | saveVotingPowers rows =>
    { t with votingPowers := t.votingPowers.writeAllLatest (·.height) rows }
  | saveBalances rows => { t with balances := t.balances.writeAllLatest (·.height) rows }
  | saveAverageBlockTime row =>
    { t with averageBlockTimes := t.averageBlockTimes.writeLatest (·.height) row }
  | saveStakingPool row => { t with stakingPool := latest (·.height) row t.stakingPool }
  | saveSupply row => { t with supply := latest (·.height) row t.supply }
  | saveInflation row => { t with inflation := latest (·.height) row t.inflation }
  | saveIbcParams row => { t with ibcParams := latest (·.height) row t.ibcParams }
  | saveGenesis row => { t with genesis := some row }
  | prune height => t.prune height
  | storeLastPruned height => { t with lastPruned := latest id height t.lastPruned }
  | hasBlock _ | lastBlockHeight | lastBlock | blockSince _ | validator _ | genesis
  | lastPruned | close => t

end Operation

structure Store where
  tables : Tables := {}
  closed : Bool := false

namespace Store

def new : Store := {}

def closedFault : Fault := .because .databaseFault "database closed"

def refuses (s : Store) (op : Operation) : Bool := s.closed && !op.acceptedWhenClosed

def perform (s : Store) (op : Operation) : Except Fault op.Answer × Store :=
  if s.refuses op then (.error closedFault, s)
  else
    (.ok (op.answer s.tables),
      { tables := op.effect s.tables
        closed := s.closed || match op with | .close => true | _ => false })

end Store
end ChainIndexer
