import ChainIndexer.Proofs.Isolation
import ChainIndexer.Proofs.Surroundings

/-! Registration. A list of names makes a registry if all of them are names of modules and none
comes twice; if not, the first name that cannot follow those before it is to blame. The registry
then calls the hooks that its modules declare: a dispatch is what these hooks do, one hook after the
other in the order of the list, and a line for each hook that fails. -/
namespace ChainIndexer

namespace Module

def known : List String := ["consensus", "staking", "bank", "mint", "ibc", "pruning"]

variable {config : PruningConfig} {name : String}

theorem map_name_all (config : PruningConfig) : (all config).map Module.name = known := rfl

theorem name_mem_known (m : Module) : m.name ∈ known := by
  cases m <;> simp [known, Module.name]

theorem ofName?_eq_none_iff : ofName? config name = none ↔ name ∉ known := by
  rw [ofName?, List.find?_eq_none, ← map_name_all config]
  simp

theorem of_ofName?_eq_some {m : Module} (found : ofName? config name = some m) :
    m ∈ all config ∧ m.name = name :=
  ⟨List.mem_of_find?_eq_some found, by simpa using List.find?_some found⟩

end Module

namespace Registry

/-- All names are names of modules, and none comes twice. -/
structure WellFormed (names : List String) : Prop where
  known : ∀ name ∈ names, name ∈ Module.known
  distinct : names.Nodup

theorem wellFormed_concat {earlier : List String} {name : String} :
    WellFormed (earlier ++ [name]) ↔
      WellFormed earlier ∧ name ∈ Module.known ∧ name ∉ earlier := by
  constructor
  · rintro ⟨known, distinct⟩
    obtain ⟨distinct, _, apart⟩ := List.nodup_append.1 distinct
    refine ⟨⟨fun name member => known name (List.mem_append_left _ member), distinct⟩, ?_, ?_⟩
    · exact known name (List.mem_append_right _ List.mem_cons_self)
    · exact fun again => apart name again name List.mem_cons_self rfl
  · rintro ⟨⟨known, distinct⟩, last, fresh⟩
    refine ⟨?_, List.nodup_append.2 ⟨distinct, by simp, ?_⟩⟩
    · simpa [or_imp, forall_and] using ⟨known, last⟩
    · rintro other member _ (_ | ⟨_, ⟨⟩⟩) rfl
      exact fresh member

theorem WellFormed.of_append {before after : List String} (h : WellFormed (before ++ after)) :
    WellFormed before :=
  ⟨fun name member => h.known name (List.mem_append_left _ member),
    (List.nodup_append.1 h.distinct).1⟩

/-- A name cannot follow others: it is unknown, or it is known and has come before. -/
inductive Refuses (earlier : List String) (name : String) : Fault → Prop
  | unknown (strange : name ∉ Module.known) :
      Refuses earlier name (.because .badConfig s!"unknown module '{name}'")
  | repeated (known : name ∈ Module.known) (again : name ∈ earlier) :
      Refuses earlier name (.because .badConfig s!"module '{name}' registered twice")

theorem Refuses.not_wellFormed {earlier after : List String} {name : String} {f : Fault}
    (h : Refuses earlier name f) : ¬ WellFormed (earlier ++ name :: after) := by
  intro all
  rw [List.append_cons] at all
  obtain ⟨_, known, fresh⟩ := wellFormed_concat.1 all.of_append
  cases h with
  | unknown strange => exact strange known
  | repeated _ again => exact fresh again

variable {config : PruningConfig} {modules : List Module}

theorem extend_cons (config : PruningConfig) (modules : List Module) (name : String)
    (names : List String) :
    (∃ f, Refuses (modules.map Module.name) name f ∧
      extend config modules (name :: names) = .error f) ∨
    ∃ m ∈ Module.all config, m.name = name ∧ name ∉ modules.map Module.name ∧
      extend config modules (name :: names) = extend config (modules ++ [m]) names := by
  rw [extend]
  cases found : Module.ofName? config name with
  | none => exact .inl ⟨_, .unknown (Module.ofName?_eq_none_iff.1 found), rfl⟩
  | some m =>
      obtain ⟨member, rfl⟩ := Module.of_ofName?_eq_some found
      by_cases again : m.name ∈ modules.map Module.name
      · exact .inl ⟨_, .repeated m.name_mem_known again, if_pos again⟩
      · exact .inr ⟨m, member, rfl, again, if_neg again⟩

/-- Either all names are added to modules, or the first one that cannot be added is refused. -/
theorem extend_cases (config : PruningConfig) {names : List String}
    (start : WellFormed (modules.map Module.name)) :
    (∃ added, extend config modules names = .ok (modules ++ added) ∧
      added.map Module.name = names ∧ (∀ m ∈ added, m ∈ Module.all config) ∧
      WellFormed (modules.map Module.name ++ names)) ∨
    ∃ before name after f, names = before ++ name :: after ∧
      WellFormed (modules.map Module.name ++ before) ∧
      Refuses (modules.map Module.name ++ before) name f ∧
      extend config modules names = .error f := by
  induction names generalizing modules with
  | nil =>
      refine .inl ⟨[], ?_, rfl, nofun, ?_⟩
      · rw [List.append_nil]
        rfl
      · rwa [List.append_nil]
  | cons name names ih =>
      rcases extend_cons config modules name names with
        ⟨f, refused, failed⟩ | ⟨m, member, rfl, fresh, added⟩
      · refine .inr ⟨[], name, names, f, rfl, ?_, ?_, failed⟩ <;> rwa [List.append_nil]
      · have next : (modules ++ [m]).map Module.name = modules.map Module.name ++ [m.name] :=
          List.map_append
        have longer (rest : List String) : (modules ++ [m]).map Module.name ++ rest =
            modules.map Module.name ++ m.name :: rest := by
          rw [next, ← List.append_cons]
        have start' : WellFormed ((modules ++ [m]).map Module.name) := by
          rw [next]
          exact wellFormed_concat.2 ⟨start, m.name_mem_known, fresh⟩
        rcases ih start' with ⟨more, made, rfl, all, formed⟩ |
          ⟨before, name, after, f, rfl, formed, refused, failed⟩
        · refine .inl ⟨m :: more, ?_, rfl, ?_, longer _ ▸ formed⟩
          · rw [added, made, ← List.append_cons]
          · simpa using ⟨member, all⟩
        · exact .inr ⟨m.name :: before, name, after, f, rfl, longer _ ▸ formed,
            longer _ ▸ refused, added.trans failed⟩

end Registry

/-! Hooks. -/

inductive Hook where
  | genesis
  | block
  deriving DecidableEq

namespace Module

/-- Blocks concern every module, the genesis document only those that keep something of it. -/
def declares : Module → Hook → Bool
  | _, .block => true
  | consensus, .genesis | staking, .genesis => true
  | _, .genesis => false

/-- What a module does with a genesis document, nothing if that is no concern of it. -/
def handleGenesis (m : Module) (doc : GenesisDoc) : Attempt Unit :=
  match m.genesisHandler? with
  | some handler => handler doc
  | none => pure ()

theorem genesisHandler?_eq (m : Module) :
    m.genesisHandler? = if m.declares .genesis then some m.handleGenesis else none := by
  cases m <;> rfl

end Module

def Program.history {σ α : Type} (o : Surroundings σ) : Program effects α → σ × Store → History
  | .done _, _ => []
  | .call c next, state =>
    ⟨c, (o.handle c state).1⟩ :: (next (o.handle c state).1).history o (o.handle c state).2

theorem Program.history_bind {σ α β : Type} {o : Surroundings σ} (p : Program effects α)
    (f : α → Program effects β) (state : σ × Store) :
    (p.bind f).history o state = p.history o state ++
      (f (p.run o.handle state).1).history o (p.run o.handle state).2 := by
  induction p generalizing state with
  | done value => rfl
  | call c next ih => exact congrArg (_ :: ·) (ih _ _)

namespace Surroundings

variable {σ α β : Type} {o : Surroundings σ}

def history (o : Surroundings σ) (p : Attempt α) (state : σ × Store) : History :=
  Program.history o p.run state

theorem history_bind_ok {p : Attempt α} {f : α → Attempt β} {value : α} {state next : σ × Store}
    (ran : o.run p state = (.ok value, next)) :
    o.history (p >>= f) state = o.history p state ++ o.history (f value) next := by
  refine (Program.history_bind p.run (ExceptT.bindCont f) state).trans ?_
  change _ ++ (let (e, next) := o.run p state; Program.history o (ExceptT.bindCont f e) next) = _
  rw [ran]
  rfl

theorem run_bind_ok {p : Attempt α} {f : α → Attempt β} {value : α} {state next : σ × Store}
    (ran : o.run p state = (.ok value, next)) : o.run (p >>= f) state = o.run (f value) next := by
  rw [run_bind, ran]

theorem history_outcome (p : Attempt α) (state : σ × Store) :
    o.history (Attempt.outcome p) state = o.history p state :=
  (Program.history_bind p.run (fun e => (.done (.ok e) :
    Program effects (Except Fault (Except Fault α)))) state).trans (List.append_nil _)

/-- Modules take turns: the hook of each is called once, on what those before it have left, and if
it fails a line is written. In the end so many have failed. -/
inductive Turns (o : Surroundings σ) (hook : Module → Attempt Unit)
    (report : Module → Fault → LogLine) :
    List Module → σ × Store → History → Nat → σ × Store → Prop
  | none {state : σ × Store} : Turns o hook report [] state [] 0 state
  | succeeded {m : Module} {ms : List Module} {state next last : σ × Store} {past : History}
      {failures : Nat} (ran : o.run (hook m) state = (.ok (), next))
      (rest : Turns o hook report ms next past failures last) :
      Turns o hook report (m :: ms) state (o.history (hook m) state ++ past) failures last
  | failed {m : Module} {ms : List Module} {state next last : σ × Store} {past : History}
      {failures : Nat} {f : Fault} (ran : o.run (hook m) state = (.error f, next))
      (rest : Turns o hook report ms next past failures last) :
      Turns o hook report (m :: ms) state
        (o.history (hook m) state ++ ⟨.log (report m (m.fault f)), ()⟩ :: past) (failures + 1) last

/-- Wherever it begins, an attempt is nothing but turns of modules. It counts those that fail, and
does not fail itself. -/
def TakesTurns (o : Surroundings σ) (hook : Module → Attempt Unit)
    (report : Module → Fault → LogLine) (ms : List Module) (p : Attempt Nat) : Prop :=
  ∀ state, ∃ failures last, o.run p state = (.ok failures, last) ∧
    o.Turns hook report ms state (o.history p state) failures last

end Surroundings

namespace Registry

variable {σ : Type} {o : Surroundings σ} {hook : Module → Attempt Unit}
  {report : Module → Fault → LogLine}

theorem run_isolate_ok (report : Fault → LogLine) {handler : Attempt Unit}
    {state next : σ × Store} (ran : o.run handler state = (.ok (), next)) :
    o.run (isolate report handler) state = (.ok 0, next) ∧
      o.history (isolate report handler) state = o.history handler state := by
  have looked := o.run_outcome handler state
  rw [ran] at looked
  unfold isolate
  rw [Surroundings.run_bind_ok looked, Surroundings.history_bind_ok looked,
    Surroundings.history_outcome]
  exact ⟨rfl, List.append_nil _⟩

theorem run_isolate_error (report : Fault → LogLine) {handler : Attempt Unit} {f : Fault}
    {state next : σ × Store} (ran : o.run handler state = (.error f, next)) :
    o.run (isolate report handler) state = (.ok 1, next) ∧
      o.history (isolate report handler) state =
        o.history handler state ++ [⟨.log (report f), ()⟩] := by
  have looked := o.run_outcome handler state
  rw [ran] at looked
  unfold isolate
  rw [Surroundings.run_bind_ok looked, Surroundings.history_bind_ok looked,
    Surroundings.history_outcome]
  exact ⟨rfl, rfl⟩

/-- A dispatch is the turns of those modules that have a handler. -/
theorem turns_dispatch {handler? : Module → Option (Attempt Unit)} {declares : Module → Bool}
    (declared : ∀ m, handler? m = if declares m then some (hook m) else none) (ms : List Module) :
    o.TakesTurns hook report (ms.filter declares) (dispatch handler? report ms) := by
  intro state
  induction ms generalizing state with
  | nil => exact ⟨0, state, rfl, .none⟩
  | cons m ms ih =>
      -- What follows a handler, given whether it has failed.
      have rest (n : Nat) {failures : Nat} {next last : σ × Store}
          (ran : o.run (dispatch handler? report ms) next = (.ok failures, last)) :
          o.run (do return n + (← dispatch handler? report ms)) next = (.ok (n + failures), last) ∧
            o.history (do return n + (← dispatch handler? report ms) : Attempt Nat) next =
              o.history (dispatch handler? report ms) next := by
        rw [Surroundings.run_bind_ok ran, Surroundings.history_bind_ok ran]
        exact ⟨rfl, List.append_nil _⟩
      unfold dispatch
      rw [declared m]
      by_cases has : declares m = true
      · rw [if_pos has, List.filter_cons_of_pos has]
        cases ended : o.run (hook m) state with
        | mk e next =>
            obtain ⟨failures, last, ran, turns⟩ := ih next
            cases e with
            | ok _ =>
                obtain ⟨first, made⟩ :=
                  run_isolate_ok (fun f => report m (m.fault f)) ended
                obtain ⟨came, same⟩ := rest 0 ran
                refine ⟨0 + failures, last, ?_, ?_⟩
                · exact (Surroundings.run_bind_ok first).trans came
                · rw [Surroundings.history_bind_ok first, made, same, Nat.zero_add]
                  exact .succeeded ended turns
            | error f =>
                obtain ⟨first, made⟩ :=
                  run_isolate_error (fun f => report m (m.fault f)) ended
                obtain ⟨came, same⟩ := rest 1 ran
                refine ⟨1 + failures, last, ?_, ?_⟩
                · exact (Surroundings.run_bind_ok first).trans came
                · rw [Surroundings.history_bind_ok first, made, same, Nat.add_comm,
                    List.append_assoc]
                  exact .failed ended turns
      · rw [if_neg has, List.filter_cons_of_neg has]
        obtain ⟨failures, last, ran, turns⟩ := ih state
        obtain ⟨came, same⟩ := rest 0 ran
        refine ⟨0 + failures, last, came, ?_⟩
        rw [Nat.zero_add]
        exact same ▸ turns

theorem ofConfig_eq (config : Config) :
    ofConfig config = (extend config.pruning [] config.modules).map Registry.mk := by
  unfold ofConfig
  cases extend config.pruning [] config.modules <;> rfl

/-- A configuration makes a registry if and only if it lists names of modules and none of them
twice. If it does not, the configuration is bad for the first name that is unknown, or that is known
and has come before. If it does, the modules are as listed. Whatever the node and the store do, the
registry then calls the hook of each module that declares one, once and in this order, and does
nothing else but to write a line for each that fails. -/
theorem registered_as_listed (config : Config) :
    ((∃ r, ofConfig config = .ok r) ↔ WellFormed config.modules) ∧
    match ofConfig config with
    | .error f => ∃ before name after, config.modules = before ++ name :: after ∧
        WellFormed before ∧ Refuses before name f
    | .ok r => r.names = config.modules ∧ r.modules.Nodup ∧
        (∀ m ∈ r.modules, m ∈ Module.all config.pruning) ∧
        ∀ (σ : Type) (o : Surroundings σ),
          (∀ doc, o.TakesTurns (·.handleGenesis doc) (.genesisFailed ·.name)
            (r.modules.filter (·.declares .genesis)) (r.dispatchGenesis doc)) ∧
          ∀ data, o.TakesTurns (·.handleBlock data) (.blockFailed ·.name data.height)
            (r.modules.filter (·.declares .block)) (r.dispatchBlock data) := by
  have empty : WellFormed (([] : List Module).map Module.name) := ⟨nofun, .nil⟩
  rw [ofConfig_eq]
  rcases extend_cases config.pruning empty with
    ⟨added, made, named, all, formed⟩ | ⟨before, name, after, f, split, formed, refused, failed⟩
  · rw [made]
    refine ⟨⟨fun _ => formed, fun _ => ⟨_, rfl⟩⟩, named, ?_, all, fun σ o => ⟨?_, ?_⟩⟩
    · have distinct : (added.map Module.name).Nodup := named ▸ formed.distinct
      exact List.Pairwise.of_map Module.name (fun _ _ apart same => apart (congrArg _ same))
        distinct
    · intro doc state
      refine turns_dispatch (fun m => ?_) added state
      rw [m.genesisHandler?_eq]
      split <;> rfl
    · intro data state
      exact turns_dispatch (fun m => congrArg (Option.map (· data)) m.blockHandler?_eq) added state
  · rw [failed]
    refine ⟨⟨?_, ?_⟩, before, name, after, split, formed, refused⟩
    · rintro ⟨r, made⟩
      cases made
    · intro whole
      exact absurd (split ▸ whole) refused.not_wellFormed

/-- A name that comes twice is noticed before an unknown one that comes later. -/
example : ofConfig { modules := ["pruning", "bank", "pruning", "gov"] } =
    .error (.because .badConfig "module 'pruning' registered twice") := rfl

end Registry
end ChainIndexer
