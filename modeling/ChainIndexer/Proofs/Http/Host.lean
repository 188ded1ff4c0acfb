import ChainIndexer.Http.Client
import ChainIndexer.Proofs.Steps

/-! Clients and hosts. A host may answer a request in a different way each time, and need not answer
at all. What a client comes to depends on the host alone, and so do the requests that it makes. -/
namespace ChainIndexer.Http

/-- A host, by what it answers to a request after so many others. -/
abbrev Host := Nat → Request → Except Fault Response

namespace Host

variable {α β : Type} {host : Host}

def handle (host : Host) : (r : Request) → StateM (List Request) (Except Fault Response) :=
  fun r past => (host past.length r, past ++ [r])

/-- What a client comes to, and the requests that were made until then, those before it included. -/
def run (host : Host) (client : Client α) : StateM (List Request) (Except Fault α) :=
  Program.run (I := web) host.handle (ExceptT.run client)

theorem run_bind (p : Client α) (f : α → Client β) (past : List Request) :
    host.run (p >>= f) past =
      match host.run p past with
      | (.ok value, later) => host.run (f value) later
      | (.error e, later) => (.error e, later) := by
  refine (congrFun (Program.run_bind host.handle p.run (ExceptT.bindCont f)) past).trans ?_
  change (let (e, later) := host.run p past
    Program.run host.handle (ExceptT.bindCont f e) later) = _
  rcases host.run p past with ⟨_ | _, later⟩ <;> rfl

theorem run_within (doing : String) (p : Client α) (past : List Request) :
    host.run (within doing p) past =
      ((host.run p past).1.mapError (Fault.within doing), (host.run p past).2) :=
  congrFun (Program.run_bind host.handle p.run fun e => .done (e.mapError (Fault.within doing)))
    past

theorem run_lift (p : Client α) (past : List Request) :
    host.run (ExceptT.lift p.run) past = (.ok (host.run p past).1, (host.run p past).2) :=
  congrFun (Program.run_bind host.handle p.run fun e =>
    .done (.ok e : Except Fault (Except Fault α))) past

theorem run_liftExcept (e : Except Fault α) (past : List Request) :
    host.run (liftExcept e) past = (e, past) := by
  cases e <;> rfl

theorem run_send (r : Request) (past : List Request) :
    host.run (send r) past = (host past.length r, past ++ [r]) := rfl

end Host

open Json (Decoder)

def Response.read (r : Response) (address : String) (item : Decoder α) : Except Fault α :=
  if !r.isSuccess && !r.looksLikeObject then .error (r.refusal address)
  else Decoder.decode item (Utf8.encode r.text)

namespace Remote

variable {α : Type}

def request (node : Remote) (address : String) (height : Option Height) : Except Fault Request :=
  if node.stopped then .error (.because .nodeFault "node client stopped")
  else (readUrl address).map fun url => { url, height }

/-- What comes of asking for an address after so many other requests. -/
def fetched (node : Remote) (host : Host) (time : Nat) (address : String) (height : Option Height)
    (item : Decoder α) : Except Fault α := do
  let request ← node.request address height
  (← host time request).read address item

def replied (node : Remote) (host : Host) (time : Nat) (path : String) (item : Decoder α) :
    Except Fault α := do
  (← node.fetched host time (node.rpcAddress ++ path) none (Reply.decoder item)).get

def rpcRequest (node : Remote) (path : String) : Except Fault Request :=
  node.request (node.rpcAddress ++ path) none

theorem exists_rpcRequest {node : Remote} {host : Host} {time : Nat} {path : String}
    {item : Decoder α} (answered : (node.replied host time path item).isOk = true) :
    ∃ r, node.rpcRequest path = .ok r := by
  unfold replied fetched at answered
  unfold rpcRequest
  cases asked : node.request (node.rpcAddress ++ path) none with
  | ok r => exact ⟨r, rfl⟩
  | error f =>
      rw [asked] at answered
      cases answered

/-- An error in words is the fault of the node, whatever else is replied. -/
theorem replied_of_error {node : Remote} {host : Host} {time : Nat} {path : String}
    {item : Decoder α} {reply : Reply α} {words : String}
    (answered : node.fetched host time (node.rpcAddress ++ path) none (Reply.decoder item) =
      .ok reply)
    (refused : reply.error = some words) :
    node.replied host time path item = .error (.because .nodeFault words) := by
  rw [replied, answered, ok_bind, Reply.get, refused]

theorem get_eq (node : Remote) (address : String) (height : Option Height) (item : Decoder α) :
    node.get address height item = (do
      let request ← liftExcept (node.request address height)
      let response ← send request
      liftExcept (response.read address item)) := by
  unfold get request
  cases node.stopped with
  | true => rfl
  | false =>
      cases readUrl address with
      | error f => rfl
      | ok url =>
          refine congrArg (send _ >>= ·) (funext fun response => ?_)
          unfold Response.read
          cases !response.isSuccess && !response.looksLikeObject <;> rfl

end Remote

namespace Host

variable {α : Type} (host : Host) (node : Remote) (past : List Request)

/-- A question is one request at most, and its answer is read from the response. -/
theorem run_get (address : String) (height : Option Height) (item : Decoder α) :
    host.run (node.get address height item) past =
      (node.fetched host past.length address height item,
        past ++ (node.request address height).toOption.toList) := by
  rw [Remote.get_eq, run_bind, run_liftExcept]
  unfold Remote.fetched
  cases node.request address height with
  | error f => exact congrArg _ (List.append_nil past).symm
  | ok r =>
      refine (run_bind _ _ past).trans ?_
      change _ = (host past.length r >>= fun response => response.read address item, past ++ [r])
      rw [run_send]
      cases host past.length r with
      | error f => rfl
      | ok response => exact run_liftExcept _ _

theorem run_rpc (path : String) (item : Decoder α) :
    host.run (node.rpc path item) past =
      (node.replied host past.length path item,
        past ++ (node.rpcRequest path).toOption.toList) := by
  unfold Remote.rpc Remote.replied
  rw [run_bind, run_get]
  cases node.fetched host past.length (node.rpcAddress ++ path) none (Reply.decoder item) with
  | error f => rfl
  | ok reply => exact run_liftExcept _ _

end Host

def Remote.near : Remote := { rpcAddress := "http://node", apiAddress := "http://api" }

end ChainIndexer.Http
