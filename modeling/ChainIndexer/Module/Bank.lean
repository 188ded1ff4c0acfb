import ChainIndexer.Module.Data

/-! The total supply, and the balances of all accounts that a block mentions. -/
namespace ChainIndexer.Bank

/-- The accounts in the messages of transactions, each once, first mentioned first. -/
def accounts (txs : List Transaction) : List String :=
  firstSeen (txs.flatMap fun tx => tx.messageRows.flatMap (·.involvedAccounts))

def balance (height : Height) (address : String) : Attempt AccountBalance := do
  return { address, balances := ← Attempt.ask (.balance address height), height }

def handleBlock (data : BlockData) : Attempt Unit := do
  let coins ← Attempt.within "failed to get supply" (Attempt.ask (.supply data.height))
  Attempt.perform (.saveSupply { coins, height := data.height })
  let balances ← (accounts data.txs).mapM (balance data.height)
  Attempt.perform (.saveBalances balances)

end ChainIndexer.Bank
