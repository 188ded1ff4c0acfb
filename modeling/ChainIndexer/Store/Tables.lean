import ChainIndexer.Store.Rows
import ChainIndexer.Table
import ChainIndexer.Timestamp

/-! The tables of the store, what is looked up in them, and how rows are offered to them. A row
that is written once is kept from then on. Of rows that are kept up to date, the latest counts:
a row gives way to one observed at the same height or later. -/
namespace ChainIndexer

structure Tables where
  blocks : Table BlockRecord.height := ∅
  txs : Table Transaction.hash := ∅
  messages : Table MessageRow.key := ∅
  commitSignatures : Table CommitSignature.key := ∅
  validators : Table Validator.consensusAddress := ∅
  descriptions : Table ValidatorDescription.operatorAddress := ∅
  commissions : Table ValidatorCommission.operatorAddress := ∅
  statuses : Table ValidatorStatus.operatorAddress := ∅
  votingPowers : Table ValidatorVotingPower.operatorAddress := ∅
  balances : Table AccountBalance.address := ∅
  averageBlockTimes : Table AverageBlockTime.period := ∅
  stakingPool : Option StakingPool := none
  supply : Option Supply := none
  inflation : Option Inflation := none
  ibcParams : Option IbcParams := none
  genesis : Option Genesis := none
  /-- The greatest height at which pruning ran. Blocks are removed below a lower one. -/
  lastPruned : Option Height := none

section Rules

variable {ρ κ : Type} [Ord κ] [Std.TransOrd κ] [Std.LawfulEqOrd κ] {key : ρ → κ}

def Table.writeOnce (row : ρ) (t : Table key) : Table key := t.put (fun _ _ => false) row

def Table.writeAllOnce (rows : List ρ) (t : Table key) : Table key :=
  t.putAll (fun _ _ => false) rows

/-- Whether a row is not older than the stored one. -/
def upToDate (height : ρ → Height) (row stored : ρ) : Bool := height stored ≤ height row

/-- Writes a row unless a later one is stored under its key. -/
def Table.writeLatest (height : ρ → Height) (row : ρ) (t : Table key) : Table key :=
  t.put (upToDate height) row

def Table.writeAllLatest (height : ρ → Height) (rows : List ρ) (t : Table key) : Table key :=
  t.putAll (upToDate height) rows

def latest (height : ρ → Height) (row : ρ) : Option ρ → Option ρ
  | none => some row
  | some stored => some (if upToDate height row stored then row else stored)

end Rules

/-- A search by time. Blocks whose own time cannot be read are passed over. -/
structure SearchByTime where
  found : Option BlockRecord
  /-- Blocks passed over, and why. -/
  unreadable : List (Height × Fault)

/-- Looks through blocks for the first that is not before a time. -/
def SearchByTime.through (t : Instant) : List BlockRecord → SearchByTime
  | [] => ⟨none, []⟩
  | b :: bs =>
    match Timestamp.parse b.timestamp with
    | .ok time => if t.le time then ⟨some b, []⟩ else through t bs
    | .error f =>
      let search := through t bs
      { search with unreadable := (b.height, f) :: search.unreadable }

def SearchByTime.warnings (search : SearchByTime) : List LogLine :=
  search.unreadable.map fun (height, f) =>
    .warn (LogLine.faultAfter s!"[db] block {height.toNat} skipped: " f)

namespace Tables

def transactionsAt (t : Tables) (height : Height) : List Transaction :=
  t.txs.rows.filter (·.height == height)

def messagesOf (t : Tables) (txHash : String) : List MessageRow :=
  t.messages.rows.filter (·.txHash == txHash)

def commitSignaturesAt (t : Tables) (height : Height) : List CommitSignature :=
  t.commitSignatures.rows.filter (·.height == height)

def blockSince (t : Tables) (time : Instant) : SearchByTime := .through time t.blocks.rows

/-- Removes the blocks below a height, with their transactions, messages and signatures. -/
def prune (height : Height) (t : Tables) : Tables :=
  { t with
    blocks := t.blocks.filter (height ≤ ·.height)
    txs := t.txs.filter (height ≤ ·.height)
    messages := t.messages.filter (height ≤ ·.height)
    commitSignatures := t.commitSignatures.filter (height ≤ ·.height) }

end Tables
end ChainIndexer
