import ChainIndexer.Chain
import ChainIndexer.Log
import ChainIndexer.Text.Part

/-! Transactions of a block. Each one is decoded by itself: one that cannot be decoded is kept by
its hash, without content. -/
namespace ChainIndexer

structure TxFee where
  amount : List Coin := []
  gas : String := ""
  deriving DecidableEq, Repr

structure TxMessage where
  type : String
  value : Json

structure Transaction where
  /-- Digest of the raw bytes, in upper case hexadecimal. -/
  hash : String
  height : Height
  fee : TxFee
  memo : String
  messages : List TxMessage
  signatures : List String
  decoded : Bool

structure MessageRow where
  txHash : String
  index : Nat
  height : Height
  type : String
  value : Json
  involvedAccounts : List String

/-! Accounts that a message mentions. -/
namespace Json

/-- Whether a text under a key is an account: the key ends in `address`, and the text is neither
empty nor the address of a validator's operator. -/
def isAccount (key text : String) : Bool :=
  Text.hasEnd "address" key && text != "" && !Text.hasPart "valoper" text

mutual

/-- The accounts in a value, each time one is mentioned, in the order of the document. -/
def accounts : Json → List String
  | .array items => itemAccounts items
  | .object fields => fieldAccounts fields
  | _ => []

def itemAccounts : List Json → List String
  | [] => []
  | v :: vs => v.accounts ++ itemAccounts vs

def fieldAccounts : List (String × Json) → List String
  | [] => []
  | (key, .text s) :: rest =>
    if isAccount key s then s :: fieldAccounts rest else fieldAccounts rest
  | (_, v) :: rest => v.accounts ++ fieldAccounts rest

end

/-- The accounts that a value mentions, each once, first mentioned first. -/
def involvedAccounts (v : Json) : List String := firstSeen v.accounts

end Json

namespace Transaction

def undecoded (hash : String) (height : Height) : Transaction :=
  { hash, height, fee := {}, memo := "", messages := [], signatures := [], decoded := false }

def messageRows (tx : Transaction) : List MessageRow :=
  tx.messages.zipIdx.map fun (m, index) =>
    { txHash := tx.hash, index, height := tx.height, type := m.type, value := m.value
      involvedAccounts := m.value.involvedAccounts }

open Json (Decoder Record)
open Json.Record (required withDefault nullable)

structure Content where
  fee : TxFee
  memo : String
  messages : List TxMessage
  signatures : List String

def feeDecoder : Decoder TxFee :=
  Record.decoder <| TxFee.mk
    <$> withDefault "amount" (Decoder.list Coin.decoder) []
    <*> withDefault "gas" Decoder.text ""

def messageDecoder : Decoder TxMessage :=
  Record.decoder <| TxMessage.mk
    <$> required "type" Decoder.text
    <*> withDefault "value" Decoder.value .null

def signatureDecoder : Decoder String :=
  Decoder.single "signature" Decoder.text

def contentDecoder : Decoder Content :=
  Record.decoder <| Content.mk
    <$> withDefault "fee" feeDecoder {}
    <*> withDefault "memo" Decoder.text ""
    <*> withDefault "msg" (Decoder.list messageDecoder) []
    <*> withDefault "signatures" (Decoder.list signatureDecoder) []

def ofRaw (raw : Bytes) (height : Height) : Transaction :=
  match Decoder.decode contentDecoder raw with
  | .ok c =>
    { hash := txHash raw, height, fee := c.fee, memo := c.memo, messages := c.messages
      signatures := c.signatures, decoded := true }
  | .error _ => undecoded (txHash raw) height

def warning? (raw : Bytes) (height : Height) : Option LogLine :=
  match Decoder.decode contentDecoder raw with
  | .ok _ => none
  | .error f => some (.warn (LogLine.faultAfter
      s!"[node] cannot decode tx {txHash raw} at height {height.toNat}: " f))

end Transaction

namespace Block

def transactions (b : Block) : List Transaction :=
  b.txs.map fun raw => Transaction.ofRaw raw b.height

def decodingWarnings (b : Block) : List LogLine :=
  b.txs.filterMap fun raw => Transaction.warning? raw b.height

end Block
end ChainIndexer
