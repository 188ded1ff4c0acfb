import ChainIndexer.Text.Clip

/-! What a fault or a log line says. The words are this library's own; where a decoder refused
a text, its diagnosis follows them. The two are kept apart so that a reader can tell them apart. -/
namespace ChainIndexer

/-- Words, and after them what a decoder had to say. -/
structure Message where
  words : String
  diagnosis : String := ""
  deriving DecidableEq, Repr

namespace Message

def text (m : Message) : String := m.words ++ m.diagnosis

def plain (words : String) : Message := { words }

def ofDiagnosis (diagnosis : String) : Message := { words := "", diagnosis }

def prepend (before : String) (m : Message) : Message := { m with words := before ++ m.words }

/-- Keeps at most `limit` bytes: the words first, then what is left of the diagnosis. -/
def clip (limit : Nat) (m : Message) : Message where
  words := Text.clip limit m.words
  diagnosis := Text.clip (limit - Text.width m.words.toList) m.diagnosis

@[simp] theorem text_plain (words : String) : (plain words).text = words := by
  simp [plain, text]

@[simp] theorem text_prepend (before : String) (m : Message) :
    (m.prepend before).text = before ++ m.text := by
  simp [prepend, text, String.append_assoc]

end Message
end ChainIndexer
