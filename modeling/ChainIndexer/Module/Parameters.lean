import ChainIndexer.Module.Data

/-! Values that the chain reports for each height and that are stored as they are: the inflation
rate and the parameters of IBC transfers. -/
namespace ChainIndexer

def Mint.handleBlock (height : Height) : Attempt Unit := do
  let value ← Attempt.within "failed to get inflation" (Attempt.ask (.inflation height))
  Attempt.perform (.saveInflation { value, height })

def Ibc.handleBlock (height : Height) : Attempt Unit := do
  let params ← Attempt.within "failed to get ibc params" (Attempt.ask (.ibcParams height))
  Attempt.perform (.saveIbcParams
    { sendEnabled := params.sendEnabled, receiveEnabled := params.receiveEnabled, height })

end ChainIndexer
