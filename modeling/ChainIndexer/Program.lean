/-! Programs. What a program does is either done or a call to the outside, followed by what it does
with the answer. Where the answers come from is left open, so that one program can be run against
a live system, replayed from a record, or interleaved with others call by call. -/
namespace ChainIndexer

structure Interface where
  Call : Type
  Answer : Call → Type

inductive Program (I : Interface) (α : Type) where
  | done (value : α)
  | call (c : I.Call) (next : I.Answer c → Program I α)

namespace Program

variable {I : Interface} {α β : Type}

def bind : Program I α → (α → Program I β) → Program I β
  | done value, f => f value
  | call c next, f => call c fun answer => (next answer).bind f

instance : Monad (Program I) where
  pure := done
  bind := bind

def perform (c : I.Call) : Program I (I.Answer c) := call c done

theorem bind_done (p : Program I α) : p.bind done = p := by
  induction p with
  | done value => rfl
  | call c next ih => exact congrArg (call c) (funext ih)

theorem bind_bind (p : Program I α) (f : α → Program I β) {γ : Type} (g : β → Program I γ) :
    (p.bind f).bind g = p.bind fun value => (f value).bind g := by
  induction p with
  | done value => rfl
  | call c next ih => exact congrArg (call c) (funext ih)

instance : LawfulMonad (Program I) := LawfulMonad.mk' (Program I)
  bind_done (fun _ _ => rfl) (fun p f g => bind_bind p f g)

@[specialize]
def run {m : Type → Type} [Monad m] (handle : (c : I.Call) → m (I.Answer c)) :
    Program I α → m α
  | done value => pure value
  | call c next => handle c >>= fun answer => (next answer).run handle

theorem run_bind {m : Type → Type} [Monad m] [LawfulMonad m]
    (handle : (c : I.Call) → m (I.Answer c)) (p : Program I α) (f : α → Program I β) :
    (p.bind f).run handle = p.run handle >>= fun value => (f value).run handle := by
  induction p with
  | done value => exact (pure_bind value fun value => (f value).run handle).symm
  | call c next ih =>
    exact (congrArg (handle c >>= ·) (funext ih)).trans
      (bind_assoc (handle c) (fun answer => (next answer).run handle) _).symm

end Program
end ChainIndexer
