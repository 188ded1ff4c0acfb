import ChainIndexer.Proofs.History
import ChainIndexer.Registry

/-! Footprints: which operations the handlers of modules use, however they are answered. Each
module keeps to tables of its own; the identities of validators and the blocks are only read. -/
namespace ChainIndexer

variable {α β : Type} {allowed : Effect → Prop}

/-- No agreement about answers, and only certain calls. -/
def Contract.only (allowed : Effect → Prop) : Contract where
  calls _ := allowed
  answers _ _ _ := True

namespace Attempt

/-- However it is answered, the attempt makes only certain calls. -/
def Calls (allowed : Effect → Prop) (p : Attempt α) : Prop :=
  ∀ past, p.Keeps (.only allowed) (fun _ _ => True) (fun _ _ => True) past

theorem Calls.imp {p : Attempt α} {wider : Effect → Prop} (h : p.Calls allowed)
    (all : ∀ c, allowed c → wider c) : p.Calls wider := by
  intro past
  exact Program.Keeps.imp (fun _ c used => all c used) (fun _ _ _ _ => trivial)
    (fun _ _ held => held) (h past)

/-- An attempt that makes only calls that a contract always allows keeps to it, and what held of
the past holds at its end if none of the calls spoils it. -/
theorem Calls.keeps {k : Contract} {p : Attempt α} {past : History} (h : p.Calls allowed)
    (holds : History → Prop) (always : ∀ past c, allowed c → k.calls past c)
    (stays : ∀ past c a, holds past → allowed c → k.answers past c a → holds (past ++ [⟨c, a⟩]))
    (start : holds past) : p.Keeps k (fun _ => holds) (fun _ => holds) past := by
  have made : Program.Keeps (.only allowed) _ p.run past := h past
  show Program.Keeps k _ p.run past
  generalize p.run = program at made ⊢
  induction program generalizing past with
  | done value => cases value <;> exact start
  | call c next ih =>
      refine ⟨always past c made.1, ?_⟩
      intro a agreed
      exact ih a (stays past c a start made.1 agreed) (made.2 a trivial)

/-- The attempt keeps to a contract, with nothing said about how it ends. -/
def Abides (k : Contract) (p : Attempt α) : Prop :=
  ∀ past, p.Keeps k (fun _ _ => True) (fun _ _ => True) past

theorem abides_bind {k : Contract} {p : Attempt α} {f : α → Attempt β} (first : p.Abides k)
    (rest : ∀ value, (f value).Abides k) : (p >>= f).Abides k := by
  intro past
  rw [keeps_bind]
  exact (first past).imp (fun value past _ => rest value past) fun _ _ _ => trivial

theorem abides_within {k : Contract} {p : Attempt α} {doing : String} (h : p.Abides k) :
    (within doing p).Abides k := by
  intro past
  rw [keeps_within]
  exact h past

theorem Calls.abides {k : Contract} {p : Attempt α} (h : p.Calls allowed)
    (always : ∀ past c, allowed c → k.calls past c) : p.Abides k := by
  intro past
  apply h.keeps (fun _ => True) always
  · intro _ _ _ _ _ _
    trivial
  · trivial

theorem abides_perform {k : Contract} {op : Operation}
    (permitted : ∀ past, k.calls past (.perform op)) : (perform op).Abides k := by
  intro past
  refine ⟨permitted past, fun a _ => ?_⟩
  cases a <;> trivial

theorem calls_pure (value : α) : (pure value : Attempt α).Calls allowed := fun _ => trivial

theorem calls_bind {p : Attempt α} {f : α → Attempt β} (first : p.Calls allowed)
    (rest : ∀ value, (f value).Calls allowed) : (p >>= f).Calls allowed :=
  abides_bind first rest

theorem calls_within {p : Attempt α} (doing : String) (h : p.Calls allowed) :
    (within doing p).Calls allowed := abides_within h

theorem calls_outcome {p : Attempt α} (h : p.Calls allowed) : (outcome p).Calls allowed := by
  intro past
  rw [keeps_outcome]
  exact h past

theorem calls_liftExcept (e : Except Fault α) :
    (liftExcept e : Attempt α).Calls allowed := by
  intro past
  rw [keeps_liftExcept]
  cases e <;> trivial

theorem calls_load {path : String} (h : allowed (.load path)) : (load path).Calls allowed :=
  fun _ => ⟨h, fun _ _ => trivial⟩

theorem calls_ask {q : Query} (h : allowed (.ask q)) : (ask q).Calls allowed := by
  intro past
  refine ⟨h, fun a _ => ?_⟩
  cases a <;> trivial

theorem calls_perform {op : Operation} (h : allowed (.perform op)) :
    (perform op).Calls allowed := by
  intro past
  refine ⟨h, fun a _ => ?_⟩
  cases a <;> trivial

theorem calls_log {line : LogLine} (h : allowed (.log line)) : (log line).Calls allowed :=
  fun _ => ⟨h, fun _ _ => trivial⟩

theorem calls_forM {γ : Type} {f : γ → Attempt PUnit} (items : List γ)
    (each : ∀ item, (f item).Calls allowed) : (items.forM f).Calls allowed := by
  induction items with
  | nil => exact calls_pure _
  | cons item rest ih => exact calls_bind (each item) fun _ => ih

theorem calls_mapM {γ : Type} {f : γ → Attempt β} (items : List γ)
    (each : ∀ item, (f item).Calls allowed) : (items.mapM f).Calls allowed := by
  induction items with
  | nil => exact calls_pure _
  | cons item rest ih =>
      rw [List.mapM_cons]
      exact calls_bind (each item) fun _ => calls_bind ih fun _ => calls_pure _

end Attempt

def Effect.uses (used : Operation → Bool) : Effect → Prop
  | .perform op => used op = true
  | .ask _ | .load _ | .log _ => True

theorem Effect.uses.imp {used wider : Operation → Bool} {c : Effect} (h : c.uses used)
    (all : ∀ op, used op = true → wider op = true) : c.uses wider := by
  cases c with
  | perform op => exact all op h
  | _ => trivial

namespace Module

def uses : Module → Operation → Bool
  | consensus, .genesis | consensus, .blockSince _ | consensus, .saveAverageBlockTime _ => true
  | staking, .validator _ | staking, .saveStakingPool _ | staking, .saveVotingPowers _
  | staking, .saveStatuses _ => true
  | bank, .saveSupply _ | bank, .saveBalances _ => true
  | mint, .saveInflation _ => true
  | ibc, .saveIbcParams _ => true
  | pruning _, .prune _ | pruning _, .storeLastPruned _ => true
  | _, _ => false

def usesAtGenesis : Module → Operation → Bool
  | consensus, .saveGenesis _ => true
  | staking, .saveCommissions _ => true
  | _, _ => false

open Attempt

theorem calls_saveAverage {period : BlockTimePeriod} {mark since : Consensus.Mark}
    (writes : ∀ row, allowed (.perform (.saveAverageBlockTime row))) :
    (Consensus.saveAverage period mark since).Calls allowed := by
  unfold Consensus.saveAverage
  split
  · exact calls_perform (writes _)
  · exact calls_pure _

theorem calls_measureSinceGenesis {mark : Consensus.Mark} (reads : allowed (.perform .genesis))
    (writes : ∀ row, allowed (.perform (.saveAverageBlockTime row))) :
    (Consensus.measureSinceGenesis mark).Calls allowed := by
  refine calls_bind (calls_perform reads) fun found => ?_
  cases found with
  | none => exact calls_pure _
  | some genesis => exact calls_bind (calls_liftExcept _) fun _ => calls_saveAverage writes

theorem calls_measureWindow (mark : Consensus.Mark) (window : BlockTimePeriod × Nat) :
    (Consensus.measureWindow mark window).Calls (Effect.uses consensus.uses) := by
  refine calls_bind (calls_bind (calls_perform rfl) fun search => ?_) fun found => ?_
  · exact calls_bind (calls_forM _ fun _ => calls_log trivial) fun _ => calls_pure _
  · cases found with
    | none => exact calls_pure _
    | some b => exact calls_bind (calls_liftExcept _) fun _ => calls_saveAverage fun _ => rfl

theorem calls_identifyAll (vs : List ChainValidator) :
    (Staking.identifyAll vs).Calls (Effect.uses staking.uses) := by
  induction vs with
  | nil => exact calls_pure _
  | cons v vs ih =>
      refine calls_bind (calls_bind (calls_perform rfl) fun _ => calls_pure _) fun known => ?_
      cases known with
      | none => exact ih
      | some known => exact calls_bind ih fun _ => calls_pure _

theorem calls_blockHandler {m : Module} {handler : BlockData → Attempt Unit}
    (h : m.blockHandler? = some handler) (data : BlockData) :
    (handler data).Calls (Effect.uses m.uses) := by
  cases m with
  | consensus =>
      cases h
      refine calls_bind (calls_liftExcept _) fun time => ?_
      refine calls_bind (calls_measureSinceGenesis rfl fun _ => rfl) fun _ => ?_
      exact calls_forM _ fun window => calls_measureWindow _ window
  | staking =>
      cases h
      refine calls_bind (calls_within _ (calls_ask trivial)) fun pool => ?_
      refine calls_bind (calls_perform rfl) fun _ => ?_
      refine calls_bind (calls_identifyAll _) fun known => ?_
      exact calls_bind (calls_perform rfl) fun _ => calls_perform rfl
  | bank =>
      cases h
      refine calls_bind (calls_within _ (calls_ask trivial)) fun coins => ?_
      refine calls_bind (calls_perform rfl) fun _ => ?_
      refine calls_bind (calls_mapM _ fun address => ?_) fun balances => calls_perform rfl
      exact calls_bind (calls_ask trivial) fun _ => calls_pure _
  | mint =>
      cases h
      exact calls_bind (calls_within _ (calls_ask trivial)) fun _ => calls_perform rfl
  | ibc =>
      cases h
      exact calls_bind (calls_within _ (calls_ask trivial)) fun _ => calls_perform rfl
  | pruning config =>
      cases h
      show (Retention.handleBlock config data.height).Calls _
      unfold Retention.handleBlock
      split
      · exact calls_pure _
      · exact calls_bind (calls_within _ (calls_perform rfl)) fun _ => calls_perform rfl

theorem calls_genesisHandler {m : Module} {handler : GenesisDoc → Attempt Unit}
    (h : m.genesisHandler? = some handler) (doc : GenesisDoc) :
    (handler doc).Calls (Effect.uses m.usesAtGenesis) := by
  cases m with
  | consensus =>
      cases h
      exact calls_perform rfl
  | staking =>
      cases h
      show (Staking.handleGenesis doc).Calls _
      unfold Staking.handleGenesis
      split
      · exact calls_pure _
      · exact calls_bind (calls_within _ (calls_liftExcept _)) fun _ => calls_perform rfl
  | bank => cases h
  | mint => cases h
  | ibc => cases h
  | pruning config => cases h

end Module

namespace Registry

open Attempt

/-- Calling handlers in order, by what holds while certain modules are still to be called. A handler
may fail, and the others are called all the same. -/
theorem keeps_dispatch {k : Contract} {handler? : Module → Option (Attempt Unit)}
    {report : Module → Fault → LogLine} (holds : List Module → History → Prop)
    {modules : List Module} {past : History}
    (each : ∀ m ∈ modules, ∀ ms past, holds (m :: ms) past → match handler? m with
      | some handler => handler.Keeps k (fun _ => holds ms) (fun _ => holds ms) past
      | none => holds ms past)
    (logs : ∀ ms past line, holds ms past →
      k.calls past (.log line) ∧ ∀ a, holds ms (past ++ [⟨.log line, a⟩]))
    (start : holds modules past) :
    (dispatch handler? report modules).Keeps k (fun _ => holds []) (fun _ _ => False) past := by
  induction modules generalizing past with
  | nil => exact start
  | cons m ms ih =>
      have first := each m List.mem_cons_self ms past start
      have rest (failures : Nat) {between : History} (h : holds ms between) :
          (do return failures + (← dispatch handler? report ms) : Attempt Nat).Keeps k
            (fun _ => holds []) (fun _ _ => False) between := by
        rw [keeps_bind]
        exact (ih (fun m' member => each m' (List.mem_cons_of_mem _ member)) h).imp
          (fun _ _ held => held) fun _ _ never => never
      unfold dispatch
      cases found : handler? m with
      | none =>
          rw [found] at first
          exact rest 0 first
      | some handler =>
          rw [found] at first
          change Keeps _ _ _ (isolate _ handler >>= fun failures => _) past
          unfold isolate
          rw [keeps_bind, keeps_bind, keeps_outcome]
          apply first.imp
          · intro _ between h
            exact rest 0 h
          · intro f between h
            change Keeps _ _ _ (log _ >>= fun _ => _) between
            rw [keeps_bind, keeps_log]
            obtain ⟨permitted, still⟩ := logs ms between _ h
            exact ⟨permitted, fun a _ => rest 1 (still a)⟩

theorem calls_dispatch {used : Operation → Bool} {handler? : Module → Option (Attempt Unit)}
    {report : Module → Fault → LogLine} {modules : List Module}
    (each : ∀ m ∈ modules, ∀ handler, handler? m = some handler →
      handler.Calls (Effect.uses used)) :
    (dispatch handler? report modules).Calls (Effect.uses used) := by
  intro past
  apply (keeps_dispatch (fun _ _ => True) ?_ ?_ trivial).imp
  · intro _ _ _
    trivial
  · intro _ _ _
    trivial
  · intro m member ms past _
    cases found : handler? m with
    | none => trivial
    | some handler => exact each m member handler found past
  · intro ms past line _
    exact ⟨trivial, fun _ => trivial⟩

def uses (r : Registry) (op : Operation) : Bool := r.modules.any (·.uses op)

def usesAtGenesis (r : Registry) (op : Operation) : Bool := r.modules.any (·.usesAtGenesis op)

theorem calls_dispatchBlock (r : Registry) (data : BlockData) :
    (r.dispatchBlock data).Calls (Effect.uses r.uses) := by
  refine calls_dispatch ?_
  intro m member handler found
  obtain ⟨handle, own, rfl⟩ := Option.map_eq_some_iff.1 found
  refine (Module.calls_blockHandler own data).imp ?_
  exact fun c used => used.imp fun op used => List.any_eq_true.2 ⟨m, member, used⟩

theorem calls_dispatchGenesis (r : Registry) (doc : GenesisDoc) :
    (r.dispatchGenesis doc).Calls (Effect.uses r.usesAtGenesis) := by
  refine calls_dispatch ?_
  intro m member handler found
  obtain ⟨handle, own, rfl⟩ := Option.map_eq_some_iff.1 found
  refine (Module.calls_genesisHandler own doc).imp ?_
  exact fun c used => used.imp fun op used => List.any_eq_true.2 ⟨m, member, used⟩

def Retains (r : Registry) : Prop := ∀ config, .pruning config ∉ r.modules

end Registry

/-- What modules that remove nothing use for blocks. -/
def Operation.servesModules : Operation → Bool
  | genesis | blockSince _ | validator _ | saveAverageBlockTime _ | saveStakingPool _
  | saveVotingPowers _ | saveStatuses _ | saveSupply _ | saveBalances _ | saveInflation _
  | saveIbcParams _ => true
  | _ => false

theorem Registry.Retains.servesModules {r : Registry} (h : r.Retains) {op : Operation}
    (used : r.uses op = true) : op.servesModules = true := by
  obtain ⟨m, member, used⟩ := List.any_eq_true.1 used
  cases m with
  | pruning config => exact absurd member (h config)
  | _ => cases op <;> first | rfl | exact used

def Operation.servesGenesis : Operation → Bool
  | saveGenesis _ | saveCommissions _ => true
  | _ => false

theorem Registry.servesGenesis {r : Registry} {op : Operation}
    (used : r.usesAtGenesis op = true) : op.servesGenesis = true := by
  obtain ⟨m, _, used⟩ := List.any_eq_true.1 used
  cases m <;> cases op <;> first | rfl | exact used

end ChainIndexer
