import ChainIndexer.Proofs.Nearby
import ChainIndexer.Proofs.Store.Part

/-! Isolation of modules. Each module owns tables that no other module changes, and what it reads
is changed by no other module, but for the blocks: these are read for averages of block times and
removed by pruning. So a module leaves its tables as it would have left them alone, whichever
modules are called before or after it and whether they fail. -/
namespace ChainIndexer

/-! Runs of an attempt, seen table by table. -/

section Runs

variable {α : Type} {w : World} {used : Operation → Bool} {p : Attempt α}

theorem holds_complete (made : p.Calls (Effect.uses used)) (holds : Store → Prop)
    (stays : ∀ op s, used op = true → holds s → holds (s.perform op).2) {s : Store}
    (start : holds s) : holds (w.complete p s) := by
  have made : Program.Keeps (.only (Effect.uses used)) _ p.run [] := made []
  unfold World.complete
  generalize p.run = program at made ⊢
  generalize ([] : History) = past at made
  induction program generalizing s past with
  | done value => exact start
  | call c next ih =>
      cases c with
      | ask query => exact ih _ start _ (made.2 _ trivial)
      | load path => exact ih _ start _ (made.2 _ trivial)
      | log line => exact ih _ start _ (made.2 _ trivial)
      | perform op => exact ih _ (stays op s made.1 start) _ (made.2 _ trivial)

theorem closed_complete (made : p.Calls (Effect.uses used)) (leaves : used .close = false)
    (s : Store) : (w.complete p s).closed = s.closed := by
  refine holds_complete made (·.closed = s.closed) ?_ rfl
  intro op s' does same
  refine (Store.closed_perform ?_).trans same
  rintro rfl
  exact Bool.noConfusion (leaves.symm.trans does)

theorem part_complete {q : Part} (made : p.Calls (Effect.uses used))
    (kept : ∀ op, used op = true → op.changes q = false) (s : Store) :
    (w.complete p s).tables.part q = s.tables.part q := by
  refine holds_complete made (·.tables.part q = s.tables.part q) ?_ rfl
  intro op s' does same
  exact (Store.part_perform (kept op does)).trans same

/-- An attempt comes to the same on stores that agree on what it reads, and they agree after it on
what they agreed on before. -/
theorem Store.Agree.complete {parts : Part → Prop} {s s' : Store} (h : s.Agree parts s')
    (made : p.Calls (Effect.uses used))
    (known : ∀ op q, used op = true → op.consults = some q → parts q) :
    w.outcome p s = w.outcome p s' ∧ (w.complete p s).Agree parts (w.complete p s') := by
  have made : Program.Keeps (.only (Effect.uses used)) _ p.run [] := made []
  unfold World.outcome World.complete
  generalize p.run = program at made ⊢
  generalize ([] : History) = past at made
  induction program generalizing s s' past with
  | done value => exact ⟨rfl, h⟩
  | call c next ih =>
      cases c with
      | ask query => exact ih _ h _ (made.2 _ trivial)
      | load path => exact ih _ h _ (made.2 _ trivial)
      | log line => exact ih _ h _ (made.2 _ trivial)
      | perform op =>
          obtain ⟨answered, h⟩ := h.perform op fun q => known op q made.1
          change (Program.run w.handle (next (s.perform op).1) (s.perform op).2).1 =
            (Program.run w.handle (next (s'.perform op).1) (s'.perform op).2).1 ∧
            (Program.run w.handle (next (s.perform op).1) (s.perform op).2).2.Agree parts
              (Program.run w.handle (next (s'.perform op).1) (s'.perform op).2).2
          rw [← answered]
          exact ih _ h _ (made.2 _ trivial)

/-- On a closed store, an attempt comes to the same whatever the tables are. -/
theorem outcome_closed (w : World) (p : Attempt α) {s s' : Store} (shut : s.closed = true)
    (shut' : s'.closed = true) : w.outcome p s = w.outcome p s' := by
  unfold World.outcome
  generalize p.run = program
  induction program with
  | done value => rfl
  | call c next ih =>
      cases c with
      | ask query => exact ih _
      | load path => exact ih _
      | log line => exact ih _
      | perform op =>
          have answered := Store.answered_closed shut shut' op
          change (Program.run w.handle (next (s.perform op).1) (s.perform op).2).1 =
            (Program.run w.handle (next (s'.perform op).1) (s'.perform op).2).1
          rw [Store.perform_closed shut, Store.perform_closed shut', ← answered]
          exact ih _

end Runs

/-! Handlers of modules, each by itself. -/

namespace Module

def handleBlock (m : Module) (data : BlockData) : Attempt Unit :=
  match m.blockHandler? with
  | some handler => handler data
  | none => pure ()

/-- The tables that a module keeps up to date as blocks are handled. -/
def owns : Module → Part → Bool
  | consensus, .averageBlockTimes => true
  | staking, .stakingPool | staking, .votingPowers | staking, .statuses => true
  | bank, .supply | bank, .balances => true
  | mint, .inflation => true
  | ibc, .ibcParams => true
  | pruning _, .blocks | pruning _, .txs | pruning _, .messages | pruning _, .commitSignatures
  | pruning _, .lastPruned => true
  | _, _ => false

/-- The tables that a module reads as blocks are handled. -/
def reads : Module → Part → Bool
  | consensus, .genesis | consensus, .blocks => true
  | staking, .validators => true
  | _, _ => false

theorem blockHandler?_eq (m : Module) : m.blockHandler? = some m.handleBlock := by
  cases m <;> rfl

theorem calls_handleBlock (m : Module) (data : BlockData) :
    (m.handleBlock data).Calls (Effect.uses m.uses) := calls_blockHandler m.blockHandler?_eq data

variable {m m' : Module} {op : Operation} {p : Part}

theorem reads_of_uses (used : m.uses op = true) (consulted : op.consults = some p) :
    m.reads p = true := by
  cases m <;> cases op <;> first | exact Bool.noConfusion used | (cases consulted <;> rfl)

theorem changes_of_uses (foreign : m.owns p = false) (used : m.uses op = true) :
    op.changes p = false := by
  cases m <;> cases op <;> first | exact Bool.noConfusion used |
    (cases p <;> first | rfl | exact Bool.noConfusion foreign)

theorem uses_close (m : Module) : m.uses .close = false := by
  cases m <;> rfl

/-- No table is owned by two modules. -/
theorem name_eq_of_owns (own : m.owns p = true) (own' : m'.owns p = true) : m.name = m'.name := by
  cases p <;> cases m <;> first | exact Bool.noConfusion own |
    (cases m' <;> first | rfl | exact Bool.noConfusion own')

/-- What a module reads is owned by none, but for the blocks. -/
theorem owns_of_reads (known : m.reads p = true) :
    (∀ m' : Module, m'.owns p = false) ∨ m = consensus ∧ p = .blocks := by
  cases m <;> cases p <;> first | exact Bool.noConfusion known | exact .inr ⟨rfl, rfl⟩ |
    (refine .inl fun m' => ?_; cases m' <;> rfl)

theorem exists_config_of_owns_blocks (own : m.owns .blocks = true) :
    ∃ config, m = .pruning config := by
  cases m with
  | pruning config => exact ⟨config, rfl⟩
  | _ => exact Bool.noConfusion own

end Module

/-- The table is owned by no module. -/
def Part.Unowned (p : Part) : Prop := ∀ m : Module, m.owns p = false

/-! Averages of block times are the only tables whose module reads blocks. Which blocks it finds
makes no difference to whether it fails: a search ends at a block with a readable time. -/

section Averages

open Attempt

variable {α : Type} {w : World}

theorem alone_forM_ok {f : α → Attempt PUnit} (each : ∀ item t, ((f item).alone w t).1 = .ok ())
    (items : List α) (t : Tables) : ((items.forM f).alone w t).1 = .ok () := by
  induction items generalizing t with
  | nil => rfl
  | cons item items ih =>
      change ((f item >>= fun _ => items.forM f).alone w t).1 = .ok ()
      rw [alone_bind_ok (each item t)]
      exact ih _

theorem alone_saveAverage (period : BlockTimePeriod) (mark since : Consensus.Mark) (t : Tables) :
    ((Consensus.saveAverage period mark since).alone w t).1 = .ok () := by
  unfold Consensus.saveAverage
  split <;> rfl

theorem alone_measureFound {time : Instant} {t : Tables} {found : Option BlockRecord}
    (searched : (t.blockSince time).found = found) (period : BlockTimePeriod)
    (mark : Consensus.Mark) (u : Tables) :
    ((Nearby.measureFrom period mark found).alone w u).1 = .ok () := by
  cases found with
  | none => rfl
  | some b =>
      obtain ⟨time, parsed⟩ := SearchByTime.readable_of_found searched
      change ((liftExcept (Timestamp.parse b.timestamp) >>= fun time =>
        Consensus.saveAverage period mark ⟨time, b.height⟩).alone w u).1 = .ok ()
      rw [parsed]
      exact alone_saveAverage period mark ⟨time, b.height⟩ u

theorem alone_measureWindow (mark : Consensus.Mark) (window : BlockTimePeriod × Nat) (t : Tables) :
    ((Consensus.measureWindow mark window).alone w t).1 = .ok () := by
  have searched := congrArg Prod.fst
    (alone_blockSince (w := w) (mark.time.before window.2) t)
  rw [Nearby.measureWindow_eq, alone_bind_ok searched]
  exact alone_measureFound rfl window.1 mark _

theorem alone_consensus {t u : Tables} (same : t.genesis = u.genesis) (b : Block) :
    ((Consensus.handleBlock b).alone w t).1 = ((Consensus.handleBlock b).alone w u).1 := by
  unfold Consensus.handleBlock
  cases Timestamp.parse b.timestamp with
  | error f => rfl
  | ok time =>
      have made : (Consensus.measureSinceGenesis ⟨time, b.height⟩).Calls
          (Effect.uses fun
            | .genesis | .saveAverageBlockTime _ => true
            | _ => false) := Module.calls_measureSinceGenesis rfl fun _ => rfl
      have alike : (Consensus.measureSinceGenesis ⟨time, b.height⟩).Alike w
          fun t u => t.genesis = u.genesis := by
        refine alike_of_calls made ?_
        intro op does t u same
        cases op <;> first | exact Bool.noConfusion does | exact ⟨same, same⟩ | exact ⟨rfl, same⟩
      obtain ⟨ends, _⟩ := alike t u same
      change ((Consensus.measureSinceGenesis ⟨time, b.height⟩ >>= fun _ =>
          Consensus.windows.forM (Consensus.measureWindow ⟨time, b.height⟩)).alone w t).1 =
        ((Consensus.measureSinceGenesis ⟨time, b.height⟩ >>= fun _ =>
          Consensus.windows.forM (Consensus.measureWindow ⟨time, b.height⟩)).alone w u).1
      cases ended : ((Consensus.measureSinceGenesis ⟨time, b.height⟩).alone w t).1 with
      | error f => rw [alone_bind_error ended, alone_bind_error (ends ▸ ended)]
      | ok done =>
          rw [alone_bind_ok ended, alone_bind_ok (ends ▸ ended),
            alone_forM_ok (alone_measureWindow _), alone_forM_ok (alone_measureWindow _)]

end Averages

namespace Module

variable {w : World} {data : BlockData} {s s' : Store} {m : Module}

theorem outcome_eq_alone (opened : s.closed = false) (w : World) (m : Module) :
    w.outcome (m.handleBlock data) s = ((m.handleBlock data).alone w s.tables).1 := by
  have leaves : (m.handleBlock data).Calls (· ≠ .perform .close) := by
    refine (m.calls_handleBlock data).imp ?_
    rintro _ does rfl
    exact Bool.noConfusion (m.uses_close.symm.trans does)
  exact congrArg Prod.fst (run_handle (w := w) opened (leaves []))

theorem outcome_congr (h : s.Agree Part.Unowned s') (w : World) (m : Module) :
    w.outcome (m.handleBlock data) s = w.outcome (m.handleBlock data) s' := by
  by_cases consensus : m = .consensus
  · subst consensus
    cases closed : s.closed with
    | true => exact outcome_closed w _ closed (h.closed ▸ closed)
    | false =>
        have genesis : s.tables.genesis = s'.tables.genesis :=
          h.part .genesis fun m => by cases m <;> rfl
        rw [outcome_eq_alone closed, outcome_eq_alone (h.closed ▸ closed)]
        exact alone_consensus genesis data.block
  · refine (h.complete (m.calls_handleBlock data) ?_).1
    intro op p does consulted
    rcases owns_of_reads (reads_of_uses does consulted) with unowned | ⟨same, _⟩
    · exact unowned
    · exact absurd same consensus

theorem part_handleBlock {p : Part} (foreign : m.owns p = false) (w : World) (s : Store) :
    (w.complete (m.handleBlock data) s).tables.part p = s.tables.part p :=
  part_complete (m.calls_handleBlock data) (fun _ => changes_of_uses foreign) s

theorem closed_handleBlock (w : World) (m : Module) (s : Store) :
    (w.complete (m.handleBlock data) s).closed = s.closed :=
  closed_complete (m.calls_handleBlock data) m.uses_close s

theorem agree_handleBlock {parts : Part → Prop} (h : s.Agree parts s')
    (known : ∀ p, m.reads p = true → parts p) (w : World) :
    (w.complete (m.handleBlock data) s).Agree parts (w.complete (m.handleBlock data) s') :=
  (h.complete (m.calls_handleBlock data) fun _ p does consulted =>
    known p (reads_of_uses does consulted)).2

end Module

/-! Modules that handle a block one after the other. -/

namespace World

variable {data : BlockData} {ms : List Module} {s s' : Store}

def handled (w : World) (data : BlockData) : List Module → Store → Store
  | [], s => s
  | m :: ms, s => w.handled data ms (w.complete (m.handleBlock data) s)

def failures (w : World) (data : BlockData) : List Module → Store → Nat
  | [], _ => 0
  | m :: ms, s => (if (w.outcome (m.handleBlock data) s).isOk then 0 else 1) +
    w.failures data ms (w.complete (m.handleBlock data) s)

theorem handled_append (w : World) (before after : List Module) (s : Store) :
    w.handled data (before ++ after) s = w.handled data after (w.handled data before s) := by
  induction before generalizing s with
  | nil => rfl
  | cons m before ih => exact ih _

theorem run_bind_ok {α β : Type} {w : World} {p : Attempt α} {f : α → Attempt β} {value : α}
    (ran : Program.run w.handle p.run s = (.ok value, s')) :
    Program.run w.handle (p >>= f).run s = Program.run w.handle (f value).run s' := by
  have split := congrFun (Program.run_bind w.handle p.run (ExceptT.bindCont f)) s
  refine split.trans ?_
  change (let (e, next) := Program.run w.handle p.run s
    Program.run w.handle (ExceptT.bindCont f e) next) = _
  rw [ran]
  rfl

theorem run_isolate (w : World) (report : Fault → LogLine) (handler : Attempt Unit) (s : Store) :
    Program.run w.handle (Registry.isolate report handler).run s =
      (.ok (if (w.outcome handler s).isOk then 0 else 1), w.complete handler s) := by
  have looked : Program.run w.handle handler.outcome.run s =
      (.ok (w.outcome handler s), w.complete handler s) :=
    congrFun (Program.run_bind w.handle handler.run fun e =>
      (.done (.ok e) : Program effects (Except Fault (Except Fault Unit)))) s
  unfold Registry.isolate
  rw [run_bind_ok looked]
  cases w.outcome handler s <;> rfl

theorem run_dispatchBlock (w : World) (r : Registry) (data : BlockData) (s : Store) :
    Program.run w.handle (r.dispatchBlock data).run s =
      (.ok (w.failures data r.modules s), w.handled data r.modules s) := by
  unfold Registry.dispatchBlock
  induction r.modules generalizing s with
  | nil => rfl
  | cons m ms ih =>
      have first := w.run_isolate (fun f => .blockFailed m.name data.height (m.fault f))
        (m.handleBlock data) s
      unfold Registry.dispatch
      rw [m.blockHandler?_eq]
      exact (run_bind_ok first).trans (run_bind_ok (ih _))

variable {w : World} {m : Module} {before after : List Module} {p : Part}

theorem part_handled (foreign : ∀ m ∈ ms, m.owns p = false) (s : Store) :
    (w.handled data ms s).tables.part p = s.tables.part p := by
  induction ms generalizing s with
  | nil => rfl
  | cons m ms ih =>
      refine (ih (fun m' member => foreign m' (List.mem_cons_of_mem _ member)) _).trans ?_
      exact Module.part_handleBlock (foreign m List.mem_cons_self) w s

theorem closed_handled (w : World) (ms : List Module) (s : Store) :
    (w.handled data ms s).closed = s.closed := by
  induction ms generalizing s with
  | nil => rfl
  | cons m ms ih => exact (ih _).trans (Module.closed_handleBlock w m s)

theorem agree_handled {parts : Part → Prop}
    (foreign : ∀ p, parts p → ∀ m ∈ ms, m.owns p = false) (s : Store) :
    (w.handled data ms s).Agree parts s :=
  ⟨closed_handled w ms s, fun p known => part_handled (foreign p known) s⟩

theorem failures_eq_countP (h : s.Agree Part.Unowned s') :
    w.failures data ms s = ms.countP fun m => !(w.outcome (m.handleBlock data) s').isOk := by
  induction ms generalizing s with
  | nil => rfl
  | cons m ms ih =>
      have next : (w.complete (m.handleBlock data) s).Agree Part.Unowned s' :=
        ⟨(Module.closed_handleBlock w m s).trans h.closed,
          fun p unowned => (Module.part_handleBlock (unowned m) w s).trans (h.part p unowned)⟩
      unfold failures
      rw [ih next, Module.outcome_congr h w m, List.countP_cons, Nat.add_comm]
      cases (w.outcome (m.handleBlock data) s').isOk <;> rfl

/-- A module's tables are as it leaves them on a store that looks the same to it as what the
modules before it left behind. -/
theorem part_handled_append
    (h : (w.handled data before s).Agree (fun p => m.reads p = true ∨ m.owns p = true) s')
    (own : m.owns p = true) (foreign : ∀ m' ∈ after, m'.owns p = false) :
    (w.handled data (before ++ m :: after) s).tables.part p =
      (w.complete (m.handleBlock data) s').tables.part p := by
  rw [handled_append]
  refine (part_handled foreign _).trans ?_
  exact (Module.agree_handleBlock h (fun _ => .inl) w).part p (.inr own)

theorem foreign_of_distinct (distinct : ((before ++ m :: after).map Module.name).Nodup)
    (own : m.owns p = true) {m' : Module} (member : m' ∈ before ++ after) :
    m'.owns p = false := by
  rw [(List.perm_middle.map Module.name).nodup_iff, List.map_cons, List.nodup_cons] at distinct
  cases own' : m'.owns p with
  | false => rfl
  | true =>
      rw [Module.name_eq_of_owns own own'] at distinct
      exact absurd (List.mem_map_of_mem member) distinct.1

/-- A module that reads no blocks leaves its tables as it leaves them alone. -/
theorem part_handled_of_mem (distinct : (ms.map Module.name).Nodup) (member : m ∈ ms)
    (other : m ≠ .consensus) (own : m.owns p = true) (s : Store) :
    (w.handled data ms s).tables.part p = (w.complete (m.handleBlock data) s).tables.part p := by
  obtain ⟨before, after, rfl⟩ := List.append_of_mem member
  refine part_handled_append (agree_handled ?_ s) own fun m' later =>
    foreign_of_distinct distinct own (List.mem_append_right _ later)
  rintro q (known | own') m' earlier
  · rcases Module.owns_of_reads known with unowned | ⟨same, _⟩
    · exact unowned m'
    · exact absurd same other
  · exact foreign_of_distinct distinct own' (List.mem_append_left _ earlier)

theorem agree_for_averages
    (distinct : ((before ++ .consensus :: after).map Module.name).Nodup)
    (blocks : (w.handled data before s).tables.blocks = s'.tables.blocks)
    (genesis : s.tables.genesis = s'.tables.genesis)
    (averages : s.tables.averageBlockTimes = s'.tables.averageBlockTimes)
    (closed : s.closed = s'.closed) :
    (w.handled data before s).Agree
      (fun p => Module.consensus.reads p = true ∨ Module.consensus.owns p = true) s' := by
  refine ⟨(closed_handled w before s).trans closed, ?_⟩
  rintro q touched
  cases q with
  | blocks => exact blocks
  | genesis => exact (part_handled (p := .genesis) (fun m _ => by cases m <;> rfl) s).trans genesis
  | averageBlockTimes =>
      refine (part_handled (p := .averageBlockTimes) ?_ s).trans averages
      exact fun m' earlier => foreign_of_distinct distinct rfl (List.mem_append_left _ earlier)
  | _ => exact touched.elim Bool.noConfusion Bool.noConfusion

end World

namespace Registry

/-- Modules are isolated from each other. Whatever the store and the block, after the handlers of a
registry were called in order, each table of a module is as this module alone would have left it,
but that averages of block times are measured without the blocks that were pruned before; a table
that no module of the registry owns is unchanged; and as many handlers have failed as fail alone. -/
theorem modules_isolated (w : World) {r : Registry} (distinct : r.names.Nodup) (data : BlockData)
    (s : Store) :
    (∀ m ∈ r.modules, m ≠ .consensus → ∀ p, m.owns p = true →
      (w.complete (r.dispatchBlock data) s).tables.part p =
        (w.complete (m.handleBlock data) s).tables.part p) ∧
    (∀ before after, r.modules = before ++ .consensus :: after →
      ((∀ config, .pruning config ∉ before) →
        (w.complete (r.dispatchBlock data) s).tables.averageBlockTimes =
          (w.complete (Module.consensus.handleBlock data) s).tables.averageBlockTimes) ∧
      ∀ config, .pruning config ∈ before →
        (w.complete (r.dispatchBlock data) s).tables.averageBlockTimes =
          (w.complete (Module.consensus.handleBlock data)
            (w.complete ((Module.pruning config).handleBlock data) s)).tables.averageBlockTimes) ∧
    (∀ p, (∀ m ∈ r.modules, m.owns p = false) →
      (w.complete (r.dispatchBlock data) s).tables.part p = s.tables.part p) ∧
    w.outcome (r.dispatchBlock data) s =
      .ok (r.modules.countP fun m => !(w.outcome (m.handleBlock data) s).isOk) := by
  have ran := w.run_dispatchBlock r data s
  have left : w.complete (r.dispatchBlock data) s = w.handled data r.modules s :=
    congrArg Prod.snd ran
  have came : w.outcome (r.dispatchBlock data) s = .ok (w.failures data r.modules s) :=
    congrArg Prod.fst ran
  rw [left, came, World.failures_eq_countP (.refl _ s)]
  refine ⟨?_, ?_, fun p foreign => World.part_handled foreign s, rfl⟩
  · intro m member other p own
    exact World.part_handled_of_mem distinct member other own s
  · intro before after split
    have distinct : ((before ++ .consensus :: after).map Module.name).Nodup := split ▸ distinct
    have later : ∀ m ∈ after, m.owns .averageBlockTimes = false := fun m later =>
      World.foreign_of_distinct distinct rfl (List.mem_append_right _ later)
    rw [split]
    constructor
    · intro keeps
      have blocks : ∀ m ∈ before, m.owns .blocks = false := by
        intro m earlier
        cases own : m.owns .blocks with
        | false => rfl
        | true =>
            obtain ⟨config, rfl⟩ := Module.exists_config_of_owns_blocks own
            exact absurd earlier (keeps config)
      exact World.part_handled_append (p := .averageBlockTimes)
        (World.agree_for_averages distinct (World.part_handled (p := .blocks) blocks s) rfl rfl rfl)
        rfl later
    · intro config earlier
      have distinct' : (before.map Module.name).Nodup := by
        rw [List.map_append] at distinct
        exact (List.nodup_append.1 distinct).1
      have pruned : (w.handled data before s).tables.blocks =
          (w.complete ((Module.pruning config).handleBlock data) s).tables.blocks :=
        World.part_handled_of_mem (p := .blocks) distinct' earlier nofun rfl s
      have left (p : Part) (foreign : (Module.pruning config).owns p = false) :
          (w.complete ((Module.pruning config).handleBlock data) s).tables.part p =
            s.tables.part p := Module.part_handleBlock foreign w s
      exact World.part_handled_append (p := .averageBlockTimes)
        (World.agree_for_averages distinct pruned (left .genesis rfl).symm
          (left .averageBlockTimes rfl).symm
          (Module.closed_handleBlock w (.pruning config) s).symm)
        rfl later

/-- The quiet chain, but that it does not tell its supply. -/
def silentBank : World where
  node
    | .supply _ => .error (.because .nodeFault "supply unavailable")
    | query => World.quiet.node query
  files := World.quiet.files

def pruningBankAndConsensus : Registry :=
  ⟨[.pruning { keepRecent := 1, interval := 1 }, .bank, .consensus]⟩

def thirdBlock : BlockData where
  block :=
    { height := 3, hash := "", chainId := "quiet", proposerAddress := [1]
      timestamp := "2024-01-01T00:00:09Z", txs := [], lastCommit := ⟨2, []⟩ }
  validators := ⟨3, []⟩
  txs := []

def storedFirst : Store := Store.new.run
  [.saveGenesis { chainId := "quiet", time := "2024-01-01T00:00:00Z", initialHeight := 1 },
    .saveBlock
      { height := 1, hash := "", numTxs := 0, totalGas := 0, proposerAddress := ⟨""⟩
        timestamp := "2024-01-01T00:00:03Z" }]

/-- The bank fails, and the average is measured without the block that was pruned. -/
theorem modules_isolated_silent_bank :
    pruningBankAndConsensus.names.Nodup ∧ storedFirst.tables.blocks.size = 1 ∧
      silentBank.outcome (pruningBankAndConsensus.dispatchBlock thirdBlock) storedFirst = .ok 1 ∧
      (∀ p, Module.bank.owns p = true →
        (silentBank.complete (pruningBankAndConsensus.dispatchBlock thirdBlock)
            storedFirst).tables.part p =
          (silentBank.complete (Module.bank.handleBlock thirdBlock) storedFirst).tables.part p) ∧
      (silentBank.complete (pruningBankAndConsensus.dispatchBlock thirdBlock)
          storedFirst).tables.averageBlockTimes =
        (silentBank.complete (Module.consensus.handleBlock thirdBlock)
          (silentBank.complete
            ((Module.pruning { keepRecent := 1, interval := 1 }).handleBlock thirdBlock)
            storedFirst)).tables.averageBlockTimes := by
  have distinct : pruningBankAndConsensus.names.Nodup := by decide
  obtain ⟨own, averages, _, failed⟩ :=
    modules_isolated silentBank distinct thirdBlock storedFirst
  have one : pruningBankAndConsensus.modules.countP (fun m =>
      !(silentBank.outcome (m.handleBlock thirdBlock) storedFirst).isOk) = 1 := by decide +kernel
  refine ⟨distinct, by decide +kernel, failed.trans (congrArg Except.ok one), ?_, ?_⟩
  · exact own .bank (.tail _ (.head _)) nofun
  · exact (averages [_, _] [] rfl).2 _ (.head _)

end Registry
end ChainIndexer
