import ChainIndexer.Bytes.Sha256
import ChainIndexer.Text.Blank
import ChainIndexer.Text.Uppercase

/-! Consensus addresses of validators. The engine reports twenty raw bytes; the address is their
hexadecimal text in upper case. -/
namespace ChainIndexer

structure ConsensusAddress where
  text : String
  deriving DecidableEq, Repr

namespace ConsensusAddress

/-- The address for the raw bytes that the consensus engine reports. -/
def ofRaw (raw : Bytes) : ConsensusAddress := ⟨Hex.encodeUpper raw⟩

/-- The address of an ed25519 public key: the first twenty bytes of its digest. -/
def ofPublicKey (key : Bytes) : ConsensusAddress := ofRaw ((sha256 key).take 20)

def ofText (s : String) : ConsensusAddress := ⟨Text.uppercase s⟩

def foldCase (cs : List Char) : List Char := cs.map Char.toLower

/-- Whether a text is this address, blanks around it and the case of ASCII letters aside. -/
def matchesHex (a : ConsensusAddress) (s : String) : Bool :=
  foldCase a.text.toList == foldCase (Text.trim s.toList)

instance : Ord ConsensusAddress := ⟨compareOn text⟩

instance : Std.TransOrd ConsensusAddress := inferInstanceAs (Std.TransCmp (compareOn text))

instance : Std.LawfulEqOrd ConsensusAddress where
  compare_self {a} := (Std.ReflCmp.compare_self : compare a.text a.text = .eq)
  eq_of_compare {a b} h := by
    have ht : a.text = b.text :=
      Std.LawfulEqCmp.eq_of_compare (show compare a.text b.text = .eq from h)
    cases a
    cases b
    exact congrArg _ ht

end ConsensusAddress

def txHash (raw : Bytes) : String := Hex.encodeUpper (sha256 raw)

end ChainIndexer
