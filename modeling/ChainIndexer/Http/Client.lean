import ChainIndexer.Config
import ChainIndexer.Http.Document
import ChainIndexer.Http.Exchange
import ChainIndexer.Node.Query
import ChainIndexer.Program
import ChainIndexer.Text.Part

/-! A node reached over HTTP. Consensus data comes from its RPC server, application data from the
server of its application, which answers for a given height. Each question to the node is a
program of exchanges. -/
namespace ChainIndexer.Http

/-- Exchanges. A request that is not answered comes with the fault of the transport. -/
def web : Interface := ⟨Request, fun _ => Except Fault Response⟩

abbrev Client := ExceptT Fault (Program web)

def send (r : Request) : Client Response := .mk (Program.perform (I := web) r)

def within (doing : String) (client : Client α) : Client α := client.adapt (Fault.within doing)

def readUrl (address : String) : Except Fault Url :=
  match Url.parse? address with
  | some url => .ok url
  | none => .error ⟨.nodeFault, some (.ofDiagnosis "invalid address")⟩

structure Remote where
  rpcAddress : String
  apiAddress : String
  stopped : Bool := false
  deriving DecidableEq, Repr

def withoutSlashes (address : String) : String :=
  String.ofList (address.toList.reverse.dropWhile (· == '/')).reverse

namespace Remote

open Json (Decoder)

def ofConfig (config : NodeConfig) : Remote where
  rpcAddress := withoutSlashes config.rpcAddress
  apiAddress := withoutSlashes config.apiAddress

def get (node : Remote) (address : String) (height : Option Height) (item : Decoder α) :
    Client α := do
  if node.stopped then throw (.because .nodeFault "node client stopped")
  let url ← liftExcept (readUrl address)
  let response ← send { url, height }
  if !response.isSuccess && !response.looksLikeObject then throw (response.refusal address)
  liftExcept (Decoder.decode item (Utf8.encode response.text))

def rpc (node : Remote) (path : String) (item : Decoder α) : Client α := do
  let reply ← node.get (node.rpcAddress ++ path) none (Reply.decoder item)
  liftExcept reply.get

/-- Asks the application's server for its state at a height. -/
def api (node : Remote) (path : String) (height : Height) (item : Decoder α) : Client α :=
  node.get (node.apiAddress ++ path) (some height) item

/-! The genesis document, in one piece or in several. -/

/-- What an RPC server says of a document that is too large. -/
def tooLargeMark : String := "genesis_chunked"

def saysTooLarge (f : Fault) : Bool := Text.hasPart tooLargeMark f.message.text

/-- Fetches parts from the one with number `i` on, after those in `bytes`. The number of parts is
what the latest part says. -/
def genesisChunks (node : Remote) (bytes : Bytes) (i : Nat) : Client Bytes := do
  let chunk ← node.rpc s!"/genesis_chunked?chunk={i}" GenesisChunk.decoder
  let bytes := bytes ++ (← liftExcept (readBase64 chunk.data))
  if i + 1 < chunk.total.toNat then node.genesisChunks bytes (i + 1)
  else return bytes
termination_by UInt64.size - i
decreasing_by
  have := chunk.total.toNat_lt_size
  omega

def genesisInParts (node : Remote) : Client GenesisDoc := do
  liftExcept (GenesisDoc.parse (← node.genesisChunks [] 0))

def genesis (node : Remote) : Client GenesisDoc := do
  match ← ExceptT.lift (node.rpc "/genesis" (Decoder.single "genesis" GenesisDoc.decoder)).run with
  | .ok doc => return doc
  | .error f =>
    if saysTooLarge f then node.genesisInParts
    else throw (f.within "failed to get genesis")

/-! Blocks and validators. -/

def latestHeight (node : Remote) : Client Height := node.rpc "/status" statusDecoder

def block (node : Remote) (height : Height) : Client Block := do
  let doc ← within s!"failed to get block {height.toNat}"
    (node.rpc s!"/block?height={height.toNat}" BlockDocument.decoder)
  liftExcept doc.toBlock

def blockResults (node : Remote) (height : Height) : Client BlockResults :=
  within s!"failed to get block results {height.toNat}"
    (node.rpc s!"/block_results?height={height.toNat}" blockResultsDecoder)

/-- Validators on a page, the most that a server serves at once. -/
def perPage : Nat := 100

def validatorPage (node : Remote) (height : Height) (page : Int32) : Client ValidatorPage :=
  within s!"failed to get validators {height.toNat}"
    (node.rpc s!"/validators?height={height.toNat}&page={page.toInt}&per_page={perPage}"
      ValidatorPage.decoder)

/-- Fetches pages from the one with this number on, after `found`. The last page is empty or
completes the number that it announces. The number of a page has thirty-two bits and a sign, and
wraps around past the greatest. -/
def validatorPages (node : Remote) (height : Height) (found : List ChainValidator) (page : Int32) :
    Client (List ChainValidator) := do
  let doc ← node.validatorPage height page
  let validators ← liftExcept (doc.validators.mapM ValidatorDocument.toValidator)
  let all := found ++ validators
  if 0 < validators.length ∧ all.length < doc.total.toNat then
    node.validatorPages height all (page + 1)
  else return all
termination_by UInt64.size - found.length
decreasing_by
  have := doc.total.toNat_lt_size
  have : all.length = found.length + validators.length := List.length_append
  show UInt64.size - all.length < UInt64.size - found.length
  omega

def validators (node : Remote) (height : Height) : Client ValidatorSet := do
  return { height, validators := ← node.validatorPages height [] 1 }

/-! The state of the application. -/

def stakingPool (node : Remote) (height : Height) : Client StakingTotals :=
  node.api "/cosmos/staking/v1beta1/pool" height (Decoder.single "pool" StakingTotals.decoder)

def supply (node : Remote) (height : Height) : Client (List Coin) :=
  node.api "/cosmos/bank/v1beta1/supply" height
    (Decoder.single "supply" (Decoder.list Coin.decoder))

def balance (node : Remote) (address : String) (height : Height) : Client (List Coin) :=
  within s!"failed to get balance of {address}"
    (node.api s!"/cosmos/bank/v1beta1/balances/{address}" height
      (Decoder.single "balances" (Decoder.list Coin.decoder)))

def inflation (node : Remote) (height : Height) : Client String :=
  node.api "/cosmos/mint/v1beta1/inflation" height (Decoder.single "inflation" Decoder.text)

def ibcParams (node : Remote) (height : Height) : Client TransferParams :=
  node.api "/ibc/apps/transfer/v1/params" height (Decoder.single "params" TransferParams.decoder)

def answer (node : Remote) : (q : Query) → Client q.Answer
  | .genesis => node.genesis
  | .latestHeight => node.latestHeight
  | .block height => node.block height
  | .blockResults height => node.blockResults height
  | .transactions b => return b.transactions
  | .validators height => node.validators height
  | .stakingPool height => node.stakingPool height
  | .supply height => node.supply height
  | .balance address height => node.balance address height
  | .inflation height => node.inflation height
  | .ibcParams height => node.ibcParams height

end Remote
end ChainIndexer.Http
