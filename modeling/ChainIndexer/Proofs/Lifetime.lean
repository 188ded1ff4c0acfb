import ChainIndexer.Proofs.Closing
import ChainIndexer.Proofs.Shutdown
import ChainIndexer.Service

/-! The life of a service. It runs at most once, whatever it is told. While it runs, its workers and
producers may do anything to what they share. When it is stopped they are told to end, and only once
they have ended are the queue and the store closed. -/
namespace ChainIndexer

/-- A service at some time: what it is at, what it shares with its threads, its surroundings and its
store, and how often it has stopped its node. -/
structure Life (σ : Type) where
  phase : Phase
  pool : Pool
  outside : σ
  store : Store
  stops : Nat

/-- How the threads of a service end once the signal is raised. They do not lower it. -/
structure Threads (σ : Type) where
  ending : Pool → σ × Store → Pool × (σ × Store)
  signal_ending : ∀ p x, (ending p x).1.signal = p.signal

open Attempt

variable {σ : Type} {o : Surroundings σ} {threads : Threads σ} {config : ParserConfig}
  {script : List Subscription} {first s : Life σ}

namespace Surroundings

theorem run_closeStore (m : σ) (store : Store) :
    o.run Service.closeStore (m, store) = (.ok (), m, (store.perform .close).2) := by
  have tried : o.run (perform .close) (m, store) =
      ((store.perform .close).1, m, (store.perform .close).2) := rfl
  unfold Service.closeStore
  rw [run_bind, run_outcome, tried]
  cases (store.perform .close).1 <;> rfl

/-- Before a start, the node is asked for its tip and the store is only read. -/
theorem run_prepare_idle (m : σ) (store : Store) :
    ∃ m', (∃ f, o.run (Service.prepare .idle) (m, store) = (.error f, m', store)) ∨
      ∃ tip, (o.node .latestHeight m).1 = .ok tip ∧
        o.run (Service.prepare .idle) (m, store) = (.ok (some tip), m', store) := by
  have asked : o.run (ask .latestHeight) (m, store) =
      ((o.node .latestHeight m).1, (o.node .latestHeight m).2, store) := rfl
  have looked (m : σ) : o.run (perform .lastBlock) (m, store) =
      ((store.perform .lastBlock).1, m, store) := by
    have kept : (store.perform .lastBlock).2 = store := by
      obtain ⟨_, closed⟩ := store
      cases closed <;> rfl
    change ((store.perform .lastBlock).1, m, (store.perform .lastBlock).2) = _
    rw [kept]
  refine ⟨(o.node .latestHeight m).2, ?_⟩
  unfold Service.prepare
  dsimp only
  rw [run_bind, run_within, asked]
  cases (o.node .latestHeight m).1 with
  | error f => exact .inl ⟨_, rfl⟩
  | ok tip =>
      refine .inr ⟨tip, rfl, ?_⟩
      change o.run (outcome (perform .lastBlock) >>= _) _ = _
      rw [run_bind, run_outcome, looked]
      cases (store.perform .lastBlock).1 <;> rfl

end Surroundings

namespace Life

instance : MonadStateOf Phase (StateM (Life σ)) where
  get := fun s => (s.phase, s)
  set phase := fun s => ((), { s with phase })
  modifyGet f := fun s => ((f s.phase).1, { s with phase := (f s.phase).2 })

instance : MonadStateOf Pool (StateM (Life σ)) where
  get := fun s => (s.pool, s)
  set pool := fun s => ((), { s with pool })
  modifyGet f := fun s => ((f s.pool).1, { s with pool := (f s.pool).2 })

def changed (s : Life σ) (change : Pool → σ × Store → Pool × (σ × Store)) : Life σ :=
  let (pool, outside, store) := change s.pool (s.outside, s.store)
  { s with pool, outside, store }

def service (o : Surroundings σ) (threads : Threads σ) (config : ParserConfig) :
    Service (StateM (Life σ)) where
  config
  attempt p := fun s =>
    let (e, outside, store) := o.run p (s.outside, s.store)
    (e, { s with outside, store })
  report _ := pure ()
  join := fun s => ((), s.changed threads.ending)
  stopNode := fun s => ((), { s with stops := s.stops + 1 })

inductive Starts (o : Surroundings σ) (config : ParserConfig) (script : List Subscription)
    (s : Life σ) : Except Fault Unit × Life σ → Prop
  | refused (stopped : s.phase = .stopped) :
      Starts o config script s (.error (.because .other "parser service stopped"), s)
  | again (running : s.phase = .running) : Starts o config script s (.ok (), s)
  | unreachable (idle : s.phase = .idle) (f : Fault) (outside : σ) :
      Starts o config script s (.error f, { s with outside })
  | launched (idle : s.phase = .idle) (tip : Height) (outside : σ)
      (answered : (o.node .latestHeight s.outside).1 = .ok tip) :
      Starts o config script s (.ok (), { s with
        phase := .running, outside, pool := (Service.launch config tip script s.pool).2 })

theorem forM_report (lines : List LogLine) :
    lines.forM (service o threads config).report s = ((), s) := by
  induction lines with
  | nil => rfl
  | cons line lines ih => exact ih

theorem bind_apply {α β : Type} (x : StateM (Life σ) α) (f : α → StateM (Life σ) β) (s : Life σ) :
    (x >>= f) s = f (x s).1 (x s).2 := rfl

theorem start_eq (o : Surroundings σ) (threads : Threads σ) (config : ParserConfig)
    (script : List Subscription) (s : Life σ) :
    (service o threads config).start script s =
      let (e, outside, store) := o.run (Service.prepare s.phase) (s.outside, s.store)
      match e with
      | .error f => (.error f, { s with outside, store })
      | .ok none => (.ok (), { s with outside, store })
      | .ok (some tip) => (.ok (), { s with
          phase := .running, outside, store
          pool := (Service.launch config tip script s.pool).2 }) := by
  have prepared : (service o threads config).attempt (Service.prepare s.phase) s =
      let (e, outside, store) := o.run (Service.prepare s.phase) (s.outside, s.store)
      (e, { s with outside, store }) := rfl
  have phase : (getThe Phase : StateM (Life σ) Phase) s = (s.phase, s) := rfl
  unfold Service.start
  rw [bind_apply, phase, bind_apply, prepared]
  rcases o.run (Service.prepare s.phase) (s.outside, s.store) with ⟨_ | _ | tip, outside, store⟩
  · rfl
  · rfl
  · refine (bind_apply _ _ _).trans ((bind_apply _ _ _).trans ?_)
    rw [forM_report]
    rfl

theorem starts (o : Surroundings σ) (threads : Threads σ) (config : ParserConfig)
    (script : List Subscription) (s : Life σ) :
    s.Starts o config script ((service o threads config).start script s) := by
  obtain ⟨phase, pool, outside, store, stops⟩ := s
  rw [start_eq]
  cases phase with
  | stopped => exact .refused rfl
  | running => exact .again rfl
  | idle =>
      obtain ⟨m', ⟨f, failed⟩ | ⟨tip, answered, ready⟩⟩ := o.run_prepare_idle outside store
      · dsimp only
        rw [failed]
        exact .unreachable rfl f m'
      · dsimp only
        rw [ready]
        exact .launched rfl tip m' answered

theorem start_of_stopped (stopped : s.phase = .stopped) :
    (service o threads config).start script s =
      (.error (.because .other "parser service stopped"), s) := by
  obtain ⟨phase, pool, outside, store, stops⟩ := s
  obtain rfl : phase = .stopped := stopped
  rw [start_eq]
  rfl

theorem discard_closeStore (s : Life σ) :
    discard ((service o threads config).attempt Service.closeStore) s =
      ((), { s with store := (s.store.perform .close).2 }) := by
  have ran := Surroundings.run_closeStore (o := o) s.outside s.store
  exact congrArg (fun x : _ × σ × Store => ((), { s with outside := x.2.1, store := x.2.2 })) ran

/-- The threads end while the queue and the store are still open. -/
theorem stop_of_running (running : s.phase = .running) :
    ((service o threads config).stop s).2 =
      let s' := { s with pool := Service.halt s.pool }.changed threads.ending
      { phase := .stopped, pool := Service.finish s'.pool, outside := s'.outside,
        store := (s'.store.perform .close).2, stops := s.stops + 1 } := by
  have phase : (getThe Phase : StateM (Life σ) Phase) s = (s.phase, s) := rfl
  unfold Service.stop
  rw [bind_apply, phase, if_pos running, bind_apply, bind_apply, bind_apply, bind_apply, bind_apply,
    discard_closeStore]
  rfl

theorem stop_of_not_running (rests : s.phase ≠ .running) :
    (service o threads config).stop s = ((), s) := by
  have phase : (getThe Phase : StateM (Life σ) Phase) s = (s.phase, s) := rfl
  unfold Service.stop
  rw [bind_apply, phase, if_neg rests]
  rfl

/-- What can happen to a service. Its threads do something only while it runs. -/
inductive Event (σ : Type) where
  | start (script : List Subscription)
  | work (change : Pool → σ × Store → Pool × (σ × Store))
  | stop

def next (o : Surroundings σ) (threads : Threads σ) (config : ParserConfig) (s : Life σ) :
    Event σ → Life σ
  | .start script => ((service o threads config).start script s).2
  | .work change => if s.phase = .running then s.changed change else s
  | .stop => ((service o threads config).stop s).2

def through (o : Surroundings σ) (threads : Threads σ) (config : ParserConfig)
    (events : List (Event σ)) (s : Life σ) : Life σ := events.foldl (next o threads config) s

/-- What a service is at tells what has become of all that it works with. -/
structure Runs (first s : Life σ) : Prop where
  untouched : s.phase = .idle → s.pool = first.pool ∧ s.store = first.store
  ended : s.phase = .stopped → s.pool.signal.raised = true ∧ s.pool.queue.closed = true ∧
    s.pool.stats.active = 0 ∧ s.store.closed = true
  stops : s.stops = first.stops + if s.phase = .stopped then 1 else 0

theorem Runs.next (h : first.Runs s) (event : Event σ) :
    first.Runs (s.next o threads config event) := by
  have stops := h.stops
  cases event with
  | start script =>
      have comes := starts o threads config script s
      change first.Runs ((service o threads config).start script s).2
      generalize (service o threads config).start script s = ended at comes
      cases comes with
      | refused | again => exact h
      | unreachable idle f outside => exact ⟨h.untouched, h.ended, stops⟩
      | launched idle tip outside answered =>
          rw [idle] at stops
          exact ⟨nofun, nofun, stops⟩
  | work change =>
      change first.Runs (if s.phase = .running then s.changed change else s)
      by_cases running : s.phase = .running
      · rw [if_pos running]
        rw [running] at stops
        have phase : (s.changed change).phase = .running := running
        refine ⟨fun idle => ?_, fun stopped => ?_, ?_⟩
        · cases phase.symm.trans idle
        · cases phase.symm.trans stopped
        · rw [phase]
          exact stops
      · rw [if_neg running]
        exact h
  | stop =>
      change first.Runs ((service o threads config).stop s).2
      by_cases running : s.phase = .running
      · rw [stop_of_running running]
        rw [running] at stops
        have raised := threads.signal_ending (Service.halt s.pool) (s.outside, s.store)
        refine ⟨nofun, fun _ => ⟨?_, rfl, rfl, Store.closed_perform_close _⟩, ?_⟩
        · exact congrArg Signal.raised raised
        · exact congrArg (· + 1) stops
      · rw [stop_of_not_running running]
        exact h

theorem runs_through (h : first.Runs s) (events : List (Event σ)) :
    first.Runs (s.through o threads config events) := by
  induction events generalizing s with
  | nil => exact h
  | cons event events ih => exact ih (h.next event)

theorem next_of_stopped (stopped : s.phase = .stopped) (event : Event σ) :
    s.next o threads config event = s := by
  have rests : s.phase ≠ .running := by
    rw [stopped]
    nofun
  cases event with
  | start script => exact congrArg Prod.snd (start_of_stopped stopped)
  | work change => exact if_neg rests
  | stop => exact congrArg Prod.snd (stop_of_not_running rests)

theorem through_of_stopped (stopped : s.phase = .stopped) (events : List (Event σ)) :
    s.through o threads config events = s := by
  induction events with
  | nil => rfl
  | cons event events ih =>
      unfold through
      rw [List.foldl_cons, next_of_stopped stopped]
      exact ih

/-- A service runs once. Whatever happens to it, an idle one is untouched. One that was stopped has
told its threads to end, has closed its queue and its store, and has stopped its node exactly
once; it stays as it is for good, and cannot be started. -/
theorem runs_once (o : Surroundings σ) (threads : Threads σ) (config : ParserConfig)
    (first : Life σ) (idle : first.phase = .idle) (before after : List (Event σ)) :
    let s := first.through o threads config before
    first.Runs s ∧
      (s.phase = .stopped → s.through o threads config after = s ∧
        ∀ script, (service o threads config).start script s =
          (.error (.because .other "parser service stopped"), s)) := by
  have begins : first.Runs first := by
    refine ⟨fun _ => ⟨rfl, rfl⟩, fun stopped => ?_, ?_⟩
    · cases idle.symm.trans stopped
    · rw [idle]
      rfl
  refine ⟨runs_through begins before, fun stopped => ⟨through_of_stopped stopped after, ?_⟩⟩
  exact fun script => start_of_stopped stopped

end Life

/-! The last worker. -/

theorem Worker.signal_serve {α : Type} {index : Nat}
    {attempt : Height → StateM σ (Except Fault Unit)} (shift : Shift α) (p : Pool) (m : σ) :
    ((alone index attempt).serve shift p m).1.2.signal = p.signal := by
  induction shift generalizing p m with
  | done value => rfl
  | call c next ih =>
      cases c with
      | look =>
          have kept : p.take.2.signal = p.signal := by
            unfold Pool.take
            split <;> rfl
          exact (ih _ _ _).trans kept
      | _ => exact ih _ _ _

/-- The threads of a service of which one worker is left. -/
def Threads.ofWorker (o : Surroundings σ) (ix : Indexer) (turns : Nat) : Threads σ where
  ending p x :=
    let ((_, p), x) := (Worker.alone ix.worker fun height =>
      o.run (ix.processIfMissing height)).turns turns p x
    (p, x)
  signal_ending p x := Worker.signal_serve _ p x

/-- If the last worker leaves its loop by itself, no height is left in the queue that is closed. -/
theorem Life.stop_drains (o : Surroundings σ) (ix : Indexer) (config : ParserConfig) {turns : Nat}
    (running : s.phase = .running) (opened : s.pool.queue.closed = false)
    (leaves : ((Worker.alone ix.worker fun height => o.run (ix.processIfMissing height)).turns turns
      (Service.halt s.pool) (s.outside, s.store)).1.1 = true) :
    ((service o (.ofWorker o ix turns) config).stop s).2.pool.queue.waiting = [] := by
  rw [stop_of_running running]
  exact Worker.waiting_turns_of_leaves turns opened rfl leaves

end ChainIndexer
