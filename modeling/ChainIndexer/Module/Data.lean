import ChainIndexer.Attempt

/-! What the modules are given of a block. -/
namespace ChainIndexer

structure BlockData where
  block : Block
  validators : ValidatorSet
  /-- The decoded transactions, in block order. -/
  txs : List Transaction

def BlockData.height (data : BlockData) : Height := data.block.height

end ChainIndexer
