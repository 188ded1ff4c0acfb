import ChainIndexer.Bytes.Base64
import ChainIndexer.Chain
import ChainIndexer.Text.Uppercase

/-! The documents that a node serves, and the chain data in them. Raw bytes are written in base 64,
addresses in hexadecimal. -/
namespace ChainIndexer.Http

open Json (Decoder Record)
open Json.Record (required withDefault nullable)

def readHex (s : String) : Except Fault Bytes :=
  match Hex.decode? s with
  | some bytes => .ok bytes
  | none => .error (.undecodable "input is not hexadecimal")

def readBase64 (s : String) : Except Fault Bytes :=
  match Base64.decode? s with
  | some bytes => .ok bytes
  | none => .error (.undecodable "input is not base 64")

/-- What an RPC server answers: a result, an error, or neither. -/
structure Reply (α : Type) where
  result : Option α
  error : Option String

def errorDecoder : Decoder String :=
  Record.decoder <| (fun message data => message ++ ": " ++ data)
    <$> withDefault "message" Decoder.text ""
    <*> withDefault "data" Decoder.text ""

def Reply.decoder (item : Decoder α) : Decoder (Reply α) :=
  Record.decoder <| Reply.mk
    <$> nullable "result" item
    <*> nullable "error" errorDecoder

def Reply.get (r : Reply α) : Except Fault α :=
  match r.error, r.result with
  | some words, _ => .error (.because .nodeFault words)
  | none, some result => .ok result
  | none, none => .error (.because .malformedData "empty rpc response")

def statusDecoder : Decoder Height :=
  Decoder.single "sync_info" (Decoder.single "latest_block_height" Decoder.naturalOrText)

/-- An entry of a commit. That of an absent validator has no address. -/
structure CommitEntryDocument where
  validatorAddress : String
  timestamp : String
  signature : Option String
  deriving DecidableEq, Repr

def CommitEntryDocument.decoder : Decoder CommitEntryDocument :=
  Record.decoder <| CommitEntryDocument.mk
    <$> withDefault "validator_address" Decoder.text ""
    <*> withDefault "timestamp" Decoder.text ""
    <*> nullable "signature" Decoder.text

def CommitEntryDocument.toEntry (doc : CommitEntryDocument) : Except Fault CommitEntry := do
  let signature ← doc.signature.mapM readBase64
  return { validatorAddress := ← readHex doc.validatorAddress
           timestamp := doc.timestamp
           signature }

structure CommitDocument where
  height : Height
  signatures : List CommitEntryDocument
  deriving DecidableEq, Repr

def CommitDocument.decoder : Decoder CommitDocument :=
  Record.decoder <| CommitDocument.mk
    <$> required "height" Decoder.naturalOrText
    <*> withDefault "signatures" (Decoder.list CommitEntryDocument.decoder) []

/-- The commit. Entries of absent validators are left out. -/
def CommitDocument.toCommit (doc : CommitDocument) : Except Fault Commit := do
  return { height := doc.height
           entries := ← (doc.signatures.filter (·.validatorAddress != "")).mapM
             CommitEntryDocument.toEntry }

structure HeaderDocument where
  chainId : String
  height : Height
  time : String
  proposerAddress : String
  deriving DecidableEq, Repr

def HeaderDocument.decoder : Decoder HeaderDocument :=
  Record.decoder <| HeaderDocument.mk
    <$> required "chain_id" Decoder.text
    <*> required "height" Decoder.naturalOrText
    <*> required "time" Decoder.text
    <*> required "proposer_address" Decoder.text

structure BlockContent where
  header : HeaderDocument
  txs : Option (List String)
  lastCommit : Option CommitDocument
  deriving DecidableEq, Repr

def BlockContent.decoder : Decoder BlockContent :=
  Record.decoder <| BlockContent.mk
    <$> required "header" HeaderDocument.decoder
    <*> required "data" (nullable "txs" (Decoder.list Decoder.text)).decoder
    <*> nullable "last_commit" CommitDocument.decoder

structure BlockDocument where
  hash : String
  content : BlockContent
  deriving DecidableEq, Repr

namespace BlockDocument

def decoder : Decoder BlockDocument :=
  Record.decoder <| BlockDocument.mk
    <$> required "block_id" (Decoder.single "hash" Decoder.text)
    <*> required "block" BlockContent.decoder

def toBlock (doc : BlockDocument) : Except Fault Block := do
  let txs ← (doc.content.txs.getD []).mapM readBase64
  let lastCommit ← match doc.content.lastCommit with
    | some commit => commit.toCommit
    | none => pure { height := 0, entries := [] }
  return { height := doc.content.header.height
           hash := Text.uppercase doc.hash
           chainId := doc.content.header.chainId
           proposerAddress := ← readHex doc.content.header.proposerAddress
           timestamp := doc.content.header.time
           txs
           lastCommit }

end BlockDocument

def txResultDecoder : Decoder TxResult :=
  Record.decoder <|
    (fun code log gasWanted gasUsed => { code := .ofNat code.toNat, gasWanted, gasUsed, log })
    <$> withDefault "code" (Decoder.integer (.unsigned 32)) 0
    <*> withDefault "log" Decoder.text ""
    <*> withDefault "gas_wanted" Decoder.naturalOrText 0
    <*> withDefault "gas_used" Decoder.naturalOrText 0

def blockResultsDecoder : Decoder BlockResults :=
  Record.decoder <| (fun height txResults => { height, txResults := txResults.getD [] })
    <$> required "height" Decoder.naturalOrText
    <*> nullable "txs_results" (Decoder.list txResultDecoder)

structure ValidatorDocument where
  address : String
  publicKey : String
  votingPower : Int64
  proposerPriority : Int64
  deriving DecidableEq, Repr

def ValidatorDocument.decoder : Decoder ValidatorDocument :=
  Record.decoder <| ValidatorDocument.mk
    <$> required "address" Decoder.text
    <*> required "pub_key" (Decoder.single "value" Decoder.text)
    <*> required "voting_power" Decoder.signedOrText
    <*> required "proposer_priority" Decoder.signedOrText

def ValidatorDocument.toValidator (doc : ValidatorDocument) : Except Fault ChainValidator := do
  return { address := ← readHex doc.address
           publicKey := ← readBase64 doc.publicKey
           votingPower := doc.votingPower
           proposerPriority := doc.proposerPriority }

structure ValidatorPage where
  validators : List ValidatorDocument
  total : UInt64
  deriving DecidableEq, Repr

def ValidatorPage.decoder : Decoder ValidatorPage :=
  Record.decoder <| ValidatorPage.mk
    <$> required "validators" (Decoder.list ValidatorDocument.decoder)
    <*> required "total" Decoder.naturalOrText

/-- A part of a genesis document too large to be served at once, and how many parts there are. -/
structure GenesisChunk where
  total : UInt64
  data : String
  deriving DecidableEq, Repr

def GenesisChunk.decoder : Decoder GenesisChunk :=
  Record.decoder <| GenesisChunk.mk
    <$> required "total" Decoder.naturalOrText
    <*> required "data" Decoder.text

end ChainIndexer.Http
