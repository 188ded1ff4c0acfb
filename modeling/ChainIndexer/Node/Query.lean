import ChainIndexer.Transaction

/-! What a chain node can be asked. -/
namespace ChainIndexer

inductive Query where
  | genesis
  | latestHeight
  | block (height : Height)
  | blockResults (height : Height)
  | transactions (block : Block)
  | validators (height : Height)
  | stakingPool (height : Height)
  | supply (height : Height)
  | balance (address : String) (height : Height)
  | inflation (height : Height)
  | ibcParams (height : Height)

@[reducible] def Query.Answer : Query → Type
  | genesis => GenesisDoc
  | latestHeight => Height
  | block _ => Block
  | blockResults _ => BlockResults
  | transactions _ => List Transaction
  | validators _ => ValidatorSet
  | stakingPool _ => StakingTotals
  | supply _ | balance _ _ => List Coin
  | inflation _ => String
  | ibcParams _ => TransferParams

/-- A node whose answers depend on the question alone. -/
abbrev Node := (q : Query) → Except Fault q.Answer

end ChainIndexer
