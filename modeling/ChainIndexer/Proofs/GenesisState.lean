import ChainIndexer.Proofs.Closing
import ChainIndexer.Proofs.Registration
import ChainIndexer.Proofs.StakingState
import ChainIndexer.Proofs.Steady
import ChainIndexer.Proofs.Store.Replay

/-! The genesis state. Two modules keep something of a genesis document: one its beginnings, which
replace those that were stored, and one the commissions of the validators that it lists, which are
kept up to date like others and of which all are offered or none. Nothing else of a store is
changed, and doing it again changes nothing. -/
namespace ChainIndexer

variable {w : World} {doc : GenesisDoc} {s : Store}

/-- The validators that the document lists, as they are written. -/
def GenesisDoc.entries? (doc : GenesisDoc) : Option (List Json) :=
  (Json.lookup? "staking" doc.appState).bind Staking.entries?

/-- The document lists validators, and this is what they are decoded to. -/
def GenesisDoc.Lists (doc : GenesisDoc) (validators : List Staking.GenesisValidator) : Prop :=
  ∃ entries, doc.entries? = some entries ∧
    entries.map (Json.Decoder.decodeValue Staking.GenesisValidator.decoder) = validators.map .ok

namespace World

open Attempt

variable {α β : Type}

theorem run_within (w : World) (doing : String) (p : Attempt α) (s : Store) :
    Program.run w.handle (within doing p).run s =
      ((Program.run w.handle p.run s).1.mapError (Fault.within doing),
        (Program.run w.handle p.run s).2) :=
  congrFun (Program.run_bind w.handle p.run fun e => .done (e.mapError (Fault.within doing))) s

theorem run_bind_error {p : Attempt α} {f : α → Attempt β} {e : Fault} {next : Store}
    (ran : Program.run w.handle p.run s = (.error e, next)) :
    Program.run w.handle (p >>= f).run s = (.error e, next) := by
  refine (congrFun (Program.run_bind w.handle p.run (ExceptT.bindCont f)) s).trans ?_
  change (let (e, next) := Program.run w.handle p.run s
    Program.run w.handle (ExceptT.bindCont f e) next) = _
  rw [ran]
  rfl

end World

namespace Module

theorem genesisWrites_staking (doc : GenesisDoc) :
    (∃ validators, doc.Lists validators ∧ staking.genesisWrites doc =
      [.saveCommissions (validators.map (·.commission doc.initialHeight))]) ∨
    (∀ validators, ¬ doc.Lists validators) ∧ staking.genesisWrites doc = [] := by
  unfold GenesisDoc.Lists GenesisDoc.entries? genesisWrites
  cases Json.lookup? "staking" doc.appState with
  | none =>
      refine .inr ⟨?_, rfl⟩
      rintro validators ⟨_, given, _⟩
      cases given
  | some state =>
      have listed := @Staking.decodeValue_state_iff state
      cases decoded : Json.Decoder.decodeValue Staking.stateDecoder state with
      | ok validators =>
          refine .inl ⟨validators, listed.1 decoded, ifAnswered_ok ?_⟩
          rw [GenesisDoc.commissions, decoded]
          rfl
      | error f =>
          refine .inr ⟨fun validators given => ?_, ifAnswered_error (f := f) ?_⟩
          · cases decoded.symm.trans (listed.2 given)
          · rw [GenesisDoc.commissions, decoded]
            rfl

theorem run_handleGenesis (w : World) (m : Module) (doc : GenesisDoc) (s : Store) :
    w.complete (m.handleGenesis doc) s = s.run (m.genesisWrites doc) := by
  cases m with
  | staking =>
      change w.complete (Staking.handleGenesis doc) s = _
      unfold Staking.handleGenesis genesisWrites
      cases Json.lookup? "staking" doc.appState with
      | none => rfl
      | some state =>
          simp only [GenesisDoc.commissions]
          cases Json.Decoder.decodeValue Staking.stateDecoder state <;> rfl
  | _ => rfl

end Module

theorem Registry.run_dispatchGenesis (w : World) (r : Registry) (doc : GenesisDoc) (s : Store) :
    ∃ failures, Program.run w.handle (r.dispatchGenesis doc).run s =
      (.ok failures, s.run (r.modules.flatMap (Module.genesisWrites doc))) := by
  unfold dispatchGenesis
  induction r.modules generalizing s with
  | nil => exact ⟨0, rfl⟩
  | cons m ms ih =>
      obtain ⟨failures, rest⟩ := ih (s.run (m.genesisWrites doc))
      unfold dispatch
      rw [m.genesisHandler?_eq, List.flatMap_cons, Store.run_append]
      by_cases has : m.declares .genesis = true
      · have first := w.run_isolate (fun f => .genesisFailed m.name (m.fault f))
          (m.handleGenesis doc) s
        rw [Module.run_handleGenesis] at first
        rw [if_pos has]
        exact ⟨_, (World.run_bind_ok first).trans (World.run_bind_ok rest)⟩
      · have nothing : m.genesisWrites doc = [] := by
          cases m <;> first | rfl | exact absurd rfl has
        rw [nothing] at rest ⊢
        rw [if_neg has]
        exact ⟨_, World.run_bind_ok rest⟩

/-- What becomes of the commissions if a document is handled: the newest of the row stored for an
operator and all rows offered for it, the latter at the document's initial height, or the same as
before if not all validators that are listed can be decoded. -/
structure GenesisDoc.OffersCommissions (doc : GenesisDoc) (before after : Tables) : Prop where
  all : ∀ validators, doc.Lists validators → ∀ operator,
    after.commissions.get? operator = newest ValidatorCommission.height
      ((before.commissions.get? operator).toList ++
        (validators.filter (·.operatorAddress = operator)).map fun v =>
          { operatorAddress := v.operatorAddress
            commission := v.rate
            minSelfDelegation := v.minSelfDelegation
            height := doc.initialHeight })
  none : (∀ entries, doc.entries? = some entries → ∃ entry ∈ entries, ∀ v,
      Json.Decoder.decodeValue Staking.GenesisValidator.decoder entry ≠ .ok v) →
    after.commissions = before.commissions

/-! What the writes leave in the tables. -/

theorem Module.mem_genesisWrites {m : Module} {op : Operation} (member : op ∈ m.genesisWrites doc) :
    m = consensus ∧ op = .saveGenesis doc.genesis ∨
      m = staking ∧ ∃ rows, op = .saveCommissions rows := by
  cases m with
  | consensus => exact .inl ⟨rfl, List.mem_singleton.1 member⟩
  | staking =>
      rcases genesisWrites_staking doc with ⟨validators, _, writes⟩ | ⟨_, nothing⟩
      · rw [writes] at member
        exact .inr ⟨rfl, _, List.mem_singleton.1 member⟩
      · rw [nothing] at member
        cases member
  | _ => cases member

theorem Module.genesisWrites_keep {m : Module} {op : Operation}
    (member : op ∈ m.genesisWrites doc) : op.prunes = false := by
  rcases mem_genesisWrites member with ⟨_, rfl⟩ | ⟨_, _, rfl⟩ <;> rfl

namespace Tables

variable {p : Part} {m : Module} {writes : Module → List Operation} {ms : List Module}

theorem part_after_uncalled (absent : m ∉ ms)
    (others : ∀ m', m' ≠ m → ∀ op ∈ writes m', op.changes p = false) (t : Tables) :
    (t.after (ms.flatMap writes)).part p = t.part p := by
  refine part_after (fun op made => ?_) t
  obtain ⟨m', called, made⟩ := List.mem_flatMap.1 made
  exact others m' (fun same => absent (same ▸ called)) op made

/-- A table that only one module changes is as this module leaves it, however often it is called. -/
theorem part_after_called (member : m ∈ ms)
    (others : ∀ m', m' ≠ m → ∀ op ∈ writes m', op.changes p = false)
    (keeps : ∀ op ∈ writes m, op.prunes = false) (t : Tables) :
    (t.after (ms.flatMap writes)).part p = (t.after (writes m)).part p := by
  induction ms generalizing t with
  | nil => cases member
  | cons first ms ih =>
      rw [List.flatMap_cons, after_append]
      by_cases again : m ∈ ms
      · rw [ih again]
        by_cases same : first = m
        · rw [same, after_redo List.prefix_rfl keeps]
        · exact part_after_congr (part_after (others first same) t) _
      · obtain rfl : m = first := (List.mem_cons.1 member).resolve_right again
        exact part_after_uncalled again others _

theorem part_after_calls (others : ∀ m', m' ≠ m → ∀ op ∈ writes m', op.changes p = false)
    (keeps : ∀ op ∈ writes m, op.prunes = false) (t : Tables) :
    (t.after (ms.flatMap writes)).part p =
      if m ∈ ms then (t.after (writes m)).part p else t.part p := by
  split
  · next called => exact part_after_called called others keeps t
  · next absent => exact part_after_uncalled absent others t

end Tables

theorem GenesisDoc.Lists.unique {validators others : List Staking.GenesisValidator}
    (h : doc.Lists validators) (h' : doc.Lists others) : validators = others := by
  obtain ⟨entries, given, each⟩ := h
  obtain ⟨entries', given', each'⟩ := h'
  obtain rfl : entries = entries' := Option.some.inj (given.symm.trans given')
  exact Except.ok.inj ((mapM_eq_ok_iff.2 each).symm.trans (mapM_eq_ok_iff.2 each'))

theorem GenesisDoc.offersCommissions (doc : GenesisDoc) (t : Tables) :
    doc.OffersCommissions t (t.after (Module.staking.genesisWrites doc)) := by
  rcases Module.genesisWrites_staking doc with ⟨validators, listed, writes⟩ | ⟨unlisted, writes⟩
  · rw [writes]
    constructor
    · intro others listed' operator
      obtain rfl := listed.unique listed'
      refine (Slot.row?_after (.commission operator) t _).trans ?_
      rw [List.flatMap_singleton]
      change newest _ (_ ++ List.filter _ (List.map _ _)) = _
      rw [List.filter_map]
      rfl
    · intro spoilt
      obtain ⟨entries, given, each⟩ := listed
      obtain ⟨entry, member, undecoded⟩ := spoilt entries given
      obtain ⟨v, _, decoded⟩ := exists_mem_of_mapM_eq_ok (mapM_eq_ok_iff.2 each) entry member
      exact absurd decoded (undecoded v)
  · rw [writes]
    exact ⟨fun validators listed => absurd listed (unlisted validators), fun _ => rfl⟩

theorem Store.run_opened (opened : s.closed = false) {ops : List Operation}
    (leaves : .close ∉ ops) :
    s.run ops = { tables := s.tables.after ops, closed := false } := by
  induction ops generalizing s with
  | nil =>
      obtain ⟨tables, closed⟩ := s
      cases opened
      rfl
  | cons op ops ih =>
      obtain ⟨other, rest⟩ := not_or.1 (mt List.mem_cons.2 leaves)
      change (s.perform op).2.run ops = _
      rw [perform_opened opened (Ne.symm other)]
      exact ih rfl rest

namespace Indexer

open Attempt

theorem run_readGenesis (w : World) (ix : Indexer) (s : Store) :
    Program.run w.handle ix.readGenesis.run s = (w.genesisDoc ix.genesisFile, s) := by
  unfold readGenesis World.genesisDoc
  cases ix.genesisFile with
  | none => rfl
  | some path =>
      have loaded : Program.run w.handle (load path).run s = (.ok (w.files path), s) := rfl
      refine (World.run_bind_ok loaded).trans ?_
      cases files : w.files path with
      | ok bytes =>
          simp only [files]
          cases GenesisDoc.parse bytes <;> rfl
      | error reason =>
          simp only [files]
          rfl

theorem writes_zero (ix : Indexer) (w : World) :
    ix.writes w 0 = ifAnswered (w.genesisDoc ix.genesisFile) fun doc =>
      ix.registry.modules.flatMap (Module.genesisWrites doc) := if_pos rfl

theorem run_processGenesis (w : World) (ix : Indexer) (s : Store) :
    ((w.outcome ix.processGenesis s).isOk = true ↔ ∃ doc, w.genesisDoc ix.genesisFile = .ok doc) ∧
      w.complete ix.processGenesis s = s.run (ix.writes w 0) := by
  have read := World.run_within w "failed to get genesis" ix.readGenesis s
  rw [run_readGenesis] at read
  unfold World.outcome World.complete processGenesis
  rw [writes_zero]
  cases found : w.genesisDoc ix.genesisFile with
  | error f =>
      rw [found] at read
      rw [World.run_bind_error read]
      exact ⟨⟨nofun, nofun⟩, rfl⟩
  | ok doc =>
      rw [found] at read
      obtain ⟨failures, called⟩ := ix.registry.run_dispatchGenesis w doc s
      rw [World.run_bind_ok read, World.run_bind_ok called]
      split <;> exact ⟨⟨fun _ => ⟨doc, rfl⟩, fun _ => rfl⟩, rfl⟩

variable {ix : Indexer}

theorem mem_writes_genesis {op : Operation} (member : op ∈ ix.writes w 0) :
    ∃ doc, w.genesisDoc ix.genesisFile = .ok doc ∧
      ∃ m ∈ ix.registry.modules, op ∈ m.genesisWrites doc := by
  rw [writes_zero] at member
  obtain ⟨doc, read, member⟩ := mem_ifAnswered.1 member
  exact ⟨doc, read, List.mem_flatMap.1 member⟩

theorem complete_processGenesis_opened (opened : s.closed = false) :
    w.complete ix.processGenesis s =
      { tables := s.tables.after (ix.writes w 0), closed := false } := by
  rw [(run_processGenesis w ix s).2, Store.run_opened opened]
  intro member
  obtain ⟨doc, _, m, _, made⟩ := mem_writes_genesis member
  rcases Module.mem_genesisWrites made with ⟨_, same⟩ | ⟨_, _, same⟩ <;> cases same

/-- Nothing is written if there is nothing to read, or no module that keeps anything of it. -/
theorem writes_genesis_eq_nil
    (nothing : (∀ doc, w.genesisDoc ix.genesisFile ≠ .ok doc) ∨
      .consensus ∉ ix.registry.modules ∧ .staking ∉ ix.registry.modules) :
    ix.writes w 0 = [] := by
  refine List.eq_nil_iff_forall_not_mem.2 fun op member => ?_
  obtain ⟨doc, read, m, called, made⟩ := mem_writes_genesis member
  rcases nothing with unread | ⟨first, second⟩
  · exact unread doc read
  · rcases Module.mem_genesisWrites made with ⟨rfl, _⟩ | ⟨rfl, _⟩
    · exact first called
    · exact second called

theorem complete_processGenesis_again (w : World) (ix : Indexer) (s : Store) :
    w.complete ix.processGenesis (w.complete ix.processGenesis s) =
      w.complete ix.processGenesis s := by
  cases closed : s.closed with
  | true => rw [(run_processGenesis w ix s).2, s.run_closed closed, (run_processGenesis w ix s).2,
      s.run_closed closed]
  | false =>
      rw [complete_processGenesis_opened closed, complete_processGenesis_opened rfl]
      refine congrArg (Store.mk · false) (Tables.after_redo List.prefix_rfl fun op member => ?_)
      obtain ⟨_, _, m, _, made⟩ := mem_writes_genesis member
      exact Module.genesisWrites_keep made

/-- What the genesis state leaves in the tables of an open store, once its document is read. -/
theorem part_processGenesis (opened : s.closed = false)
    (read : w.genesisDoc ix.genesisFile = .ok doc) :
    (w.complete ix.processGenesis s).tables.genesis =
        (if .consensus ∈ ix.registry.modules then some doc.genesis else s.tables.genesis) ∧
      (w.complete ix.processGenesis s).tables.commissions =
        if .staking ∈ ix.registry.modules then
          (s.tables.after (Module.staking.genesisWrites doc)).commissions
        else s.tables.commissions := by
  have keeps (m : Module) : ∀ op ∈ m.genesisWrites doc, op.prunes = false :=
    fun _ => Module.genesisWrites_keep
  have genesis (m : Module) (other : m ≠ .consensus) :
      ∀ op ∈ m.genesisWrites doc, op.changes .genesis = false := by
    intro op made
    rcases Module.mem_genesisWrites made with ⟨same, _⟩ | ⟨_, _, rfl⟩
    · exact absurd same other
    · rfl
  have commissions (m : Module) (other : m ≠ .staking) :
      ∀ op ∈ m.genesisWrites doc, op.changes .commissions = false := by
    intro op made
    rcases Module.mem_genesisWrites made with ⟨_, rfl⟩ | ⟨same, _⟩
    · rfl
    · exact absurd same other
  rw [complete_processGenesis_opened opened, writes_zero, ifAnswered_ok read]
  exact ⟨Tables.part_after_calls (p := .genesis) genesis (keeps _) s.tables,
    Tables.part_after_calls (p := .commissions) commissions (keeps _) s.tables⟩

end Indexer
end ChainIndexer
