import ChainIndexer.Json.Token

/-! The tree of a JSON text: which values stand where. Nothing is judged here but the syntax:
fields keep the order and the repetitions of the text, and a string or number without value is
part of the tree. A text that stops being JSON at some point has a tree too, of what stands before
that point. So a reader of the tree meets the troubles of a text in the order of the text. -/
namespace ChainIndexer.Json

inductive Tree where
  | null
  | bool (b : Bool)
  | number (value : Option Number)
  | text (value : Option String)
  | array (items : List Tree) (ended : Bool)
  | object (fields : List (Option String × Tree)) (ended : Bool)
  deriving Repr

structure Document where
  /-- Its value, if there is the beginning of one. -/
  value : Option Tree
  complete : Bool
  deriving Repr

namespace Tree

/-- An array or object whose end has not been read; its members last first. -/
inductive Frame where
  | array (items : List Tree)
  | object (fields : List (Option String × Tree)) (key : Option String)

inductive Expectation where
  | value
  | firstItem
  | firstKey
  | key
  | colon
  /-- A comma or the end of what is open, or the end of the text. -/
  | next
  deriving DecidableEq

/-- Reading in progress: what is open, innermost first, what may come, and the whole if read. -/
structure Building where
  frames : List Frame
  expects : Expectation
  whole : Option Tree

namespace Building

def initial : Building := ⟨[], .value, none⟩

def place (b : Building) (t : Tree) : Option Building :=
  match b.frames with
  | [] => if b.whole.isNone then some ⟨[], .next, some t⟩ else none
  | .array items :: open_ => some ⟨.array (t :: items) :: open_, .next, b.whole⟩
  | .object fields key :: open_ => some ⟨.object ((key, t) :: fields) none :: open_, .next, b.whole⟩

/-- Begins a value: one token is one, or opens one. -/
def begin (b : Building) : Token → Option Building
  | .null => b.place .null
  | .bool v => b.place (.bool v)
  | .number v => b.place (.number v)
  | .text v => b.place (.text v)
  | .beginArray => some ⟨.array [] :: b.frames, .firstItem, b.whole⟩
  | .beginObject => some ⟨.object [] none :: b.frames, .firstKey, b.whole⟩
  | _ => none

def endArray (b : Building) : Option Building :=
  match b.frames with
  | .array items :: open_ => { b with frames := open_ }.place (.array items.reverse true)
  | _ => none

def endObject (b : Building) : Option Building :=
  match b.frames with
  | .object fields _ :: open_ => { b with frames := open_ }.place (.object fields.reverse true)
  | _ => none

def takeKey (b : Building) (key : Option String) : Option Building :=
  match b.frames with
  | .object fields _ :: open_ => some ⟨.object fields key :: open_, .colon, b.whole⟩
  | _ => none

def afterComma (b : Building) : Option Building :=
  match b.frames with
  | .array _ :: _ => some { b with expects := .value }
  | .object _ _ :: _ => some { b with expects := .key }
  | [] => none

def step (b : Building) (t : Token) : Option Building :=
  match b.expects, t with
  | .value, t => b.begin t
  | .firstItem, .endArray => b.endArray
  | .firstItem, t => b.begin t
  | .firstKey, .endObject => b.endObject
  | .firstKey, .text key | .key, .text key => b.takeKey key
  | .firstKey, _ | .key, _ => none
  | .colon, .colon => some { b with expects := .value }
  | .colon, _ => none
  | .next, .comma => b.afterComma
  | .next, .endArray => b.endArray
  | .next, .endObject => b.endObject
  | .next, _ => none

/-- Takes in tokens, one after the other, up to one that cannot follow. The answer is whether all
could. -/
def steps : Building → List Token → Building × Bool
  | b, [] => (b, true)
  | b, t :: ts =>
    match b.step t with
    | some b => steps b ts
    | none => (b, false)

/-- What is open becomes the tree of what has been read of it, from the inside out. A key whose
value has not begun is left out. -/
def collapse : Option Tree → List Frame → Option Tree
  | inner, [] => inner
  | inner, .array items :: frames =>
    collapse (some (.array (inner.toList ++ items).reverse false)) frames
  | inner, .object fields key :: frames =>
    collapse (some (.object ((inner.toList.map (key, ·)) ++ fields).reverse false)) frames

def finish (b : Building) (all : Bool) : Document where
  value := if b.whole.isSome then b.whole else collapse none b.frames
  complete := all && b.frames.isEmpty && b.whole.isSome

end Building
end Tree

def Document.ofBytes (bs : Bytes) : Document :=
  let (tokens, whole) := Token.ofBytes bs
  let (b, fits) := Tree.Building.initial.steps tokens
  b.finish (whole && fits)

end ChainIndexer.Json
