import ChainIndexer.Transaction

/-! Stored rows. Blocks, transactions, messages and commit signatures are written once for each
key. All other rows say how something stood at a height, and the latest one counts. -/
namespace ChainIndexer

/-- A block whose data is completely stored. -/
structure BlockRecord where
  height : Height
  hash : String
  numTxs : UInt64
  totalGas : UInt64
  proposerAddress : ConsensusAddress
  timestamp : String
  deriving DecidableEq, Repr

/-- The row for a block and the gas that its transactions used. -/
def Block.toRecord (b : Block) (totalGas : UInt64) : BlockRecord where
  height := b.height
  hash := b.hash
  numTxs := b.txs.length.toUInt64
  totalGas := totalGas
  proposerAddress := .ofRaw b.proposerAddress
  timestamp := b.timestamp

structure Validator where
  consensusAddress : ConsensusAddress
  /-- In lower case hexadecimal. -/
  publicKey : String
  operatorAddress : String
  height : Height
  deriving DecidableEq, Repr

structure ValidatorDescription where
  operatorAddress : String
  consensusAddress : ConsensusAddress
  moniker : String
  identity : String
  avatarUrl : Option String
  details : String
  height : Height
  deriving DecidableEq, Repr

structure ValidatorCommission where
  operatorAddress : String
  commission : String
  minSelfDelegation : String
  height : Height
  deriving DecidableEq, Repr

/-- Whether a validator takes part. What the chain did not report is `none`. -/
structure ValidatorStatus where
  consensusAddress : ConsensusAddress
  operatorAddress : String
  inActiveSet : Bool
  jailed : Option Bool
  tombstoned : Option Bool
  height : Height
  deriving DecidableEq, Repr

structure ValidatorVotingPower where
  consensusAddress : ConsensusAddress
  operatorAddress : String
  votingPower : Int64
  height : Height
  deriving DecidableEq, Repr

structure CommitSignature where
  validatorAddress : ConsensusAddress
  votingPower : Int64
  proposerPriority : Int64
  /-- The height of the block signed. -/
  height : Height
  timestamp : String
  deriving DecidableEq, Repr

structure AccountBalance where
  address : String
  balances : List Coin
  height : Height
  deriving DecidableEq, Repr

inductive BlockTimePeriod where
  | genesis
  | day
  | hour
  | minute
  deriving DecidableEq, Repr

/-- Seconds between two blocks, on the average of a period that ends at a height. -/
structure AverageBlockTime where
  period : BlockTimePeriod
  seconds : Float
  height : Height

structure StakingPool where
  bondedTokens : String
  notBondedTokens : String
  height : Height
  deriving DecidableEq, Repr

structure Supply where
  coins : List Coin
  height : Height
  deriving DecidableEq, Repr

structure Inflation where
  value : String
  height : Height
  deriving DecidableEq, Repr

structure IbcParams where
  sendEnabled : Bool
  receiveEnabled : Bool
  height : Height
  deriving DecidableEq, Repr

structure Genesis where
  chainId : String
  time : String
  initialHeight : Height
  deriving DecidableEq, Repr

/-! Keys of two parts are ordered by the first part, then by the second. -/

/-- A validator signs once at a time. -/
structure CommitSignature.Key where
  validatorAddress : ConsensusAddress
  timestamp : String
  deriving DecidableEq

namespace CommitSignature.Key

instance : Ord Key := ⟨compareLex (compareOn validatorAddress) (compareOn timestamp)⟩

instance : Std.TransOrd Key :=
  inferInstanceAs (Std.TransCmp (compareLex (compareOn validatorAddress) (compareOn timestamp)))

instance : Std.LawfulEqOrd Key where
  compare_self {a} := (Std.ReflCmp.compare_self :
    compareLex (compareOn validatorAddress) (compareOn timestamp) a a = .eq)
  eq_of_compare {a b} h := by
    obtain ⟨h1, h2⟩ := Ordering.then_eq_eq.1
      (show (compare a.validatorAddress b.validatorAddress).then
        (compare a.timestamp b.timestamp) = .eq from h)
    cases a
    cases b
    cases Std.LawfulEqCmp.eq_of_compare h1
    cases Std.LawfulEqCmp.eq_of_compare h2
    rfl

end CommitSignature.Key

def CommitSignature.key (row : CommitSignature) : CommitSignature.Key :=
  ⟨row.validatorAddress, row.timestamp⟩

/-- A message has a place in its transaction. -/
structure MessageRow.Key where
  txHash : String
  index : Nat
  deriving DecidableEq

namespace MessageRow.Key

instance : Ord Key := ⟨compareLex (compareOn txHash) (compareOn index)⟩

instance : Std.TransOrd Key :=
  inferInstanceAs (Std.TransCmp (compareLex (compareOn txHash) (compareOn index)))

instance : Std.LawfulEqOrd Key where
  compare_self {a} := (Std.ReflCmp.compare_self :
    compareLex (compareOn txHash) (compareOn index) a a = .eq)
  eq_of_compare {a b} h := by
    obtain ⟨h1, h2⟩ := Ordering.then_eq_eq.1
      (show (compare a.txHash b.txHash).then (compare a.index b.index) = .eq from h)
    cases a
    cases b
    cases Std.LawfulEqCmp.eq_of_compare h1
    cases Std.LawfulEqCmp.eq_of_compare h2
    rfl

end MessageRow.Key

def MessageRow.key (row : MessageRow) : MessageRow.Key := ⟨row.txHash, row.index⟩

namespace BlockTimePeriod

/-- The longest period comes first. -/
def rank : BlockTimePeriod → Nat
  | genesis => 0
  | day => 1
  | hour => 2
  | minute => 3

instance : Ord BlockTimePeriod := ⟨compareOn rank⟩

instance : Std.TransOrd BlockTimePeriod := inferInstanceAs (Std.TransCmp (compareOn rank))

theorem eq_of_rank_eq {a b : BlockTimePeriod} (h : a.rank = b.rank) : a = b := by
  cases a <;> cases b <;> simp_all [rank]

instance : Std.LawfulEqOrd BlockTimePeriod where
  compare_self {a} := (Std.ReflCmp.compare_self : compare a.rank a.rank = .eq)
  eq_of_compare {a b} h :=
    eq_of_rank_eq (Std.LawfulEqCmp.eq_of_compare (show compare a.rank b.rank = .eq from h))

end BlockTimePeriod
end ChainIndexer
