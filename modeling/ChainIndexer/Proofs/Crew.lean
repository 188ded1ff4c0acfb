import ChainIndexer.Proofs.Store.Run
import ChainIndexer.Proofs.Writes

/-! Attempts at work together. A crew makes its attempts call by call, in any order, on one store.
Each call is answered by the outside as it is at that moment, and the store may refuse. The tables
of a crew show what its attempts got done, and an attempt that keeps to a contract keeps to it in
a crew. -/
namespace ChainIndexer

structure World where
  node : Node
  files : String → Except String Bytes

inductive Task where
  | index (height : Height)
  | reindex (height : Height)
  | transactions (height : Height)
  deriving DecidableEq

structure Job where
  worker : Nat
  task : Task
  deriving DecidableEq

def Job.attempt (ix : Indexer) (j : Job) : Attempt Unit :=
  match j.task with
  | .index height => { ix with worker := j.worker }.processIfMissing height
  | .reindex height => { ix with worker := j.worker }.process height
  | .transactions height => Indexer.processTransactions height

/-- A job keeps to what is agreed, if it does so where a block is indexed, and if everything else
that a job may do is always permitted. -/
theorem Job.abides_attempt {k : Contract} {ix : Indexer} (j : Job)
    (sidestep : ∀ past c, c.uses Operation.sidesteps → k.calls past c)
    (looks : ∀ past height, k.calls past (.perform (.hasBlock height)))
    (block : ∀ worker height, ({ ix with worker }.processBlock height).Abides k) :
    (j.attempt ix).Abides k := by
  have genesis (past : History) (c : Effect) (used : c.uses Operation.servesGenesis) :
      k.calls past c :=
    sidestep past c (used.imp fun _ serves => Bool.or_eq_true_iff.2 (.inl serves))
  obtain ⟨worker, task⟩ := j
  cases task with
  | index height =>
      exact Indexer.abides_processIfMissing { ix with worker } genesis
        (fun past => looks past height) (block worker height)
  | reindex height =>
      exact Indexer.abides_process { ix with worker } genesis (block worker height)
  | transactions height =>
      apply Indexer.calls_processTransactions.abides
      intro past c used
      exact sidestep past c (used.imp fun _ saves => Bool.or_eq_true_iff.2 (.inr saves))

/-- An attempt, between two calls: what has passed, and what is left to do. -/
structure Underway where
  job : Job
  past : History := []
  rest : Program effects (Except Fault Unit)

def Underway.ended (u : Underway) : Bool :=
  match u.rest with
  | .done _ => true
  | .call _ _ => false

structure Crew where
  attempts : List Underway
  store : Store

/-- One attempt makes its next call. The world is as the call finds it. -/
structure Move where
  attempt : Nat
  world : World
  refusal : Option Fault := none

/-- Moves in a world that stays as it is, with a store that does not refuse. -/
def World.moves (w : World) (schedule : List Nat) : List Move :=
  schedule.map fun attempt => { attempt, world := w }

def Move.answer (m : Move) (s : Store) : (c : Effect) → c.Answer × Store
  | .ask query => (m.world.node query, s)
  | .load path => (m.world.files path, s)
  | .log _ => ((), s)
  | .perform op =>
    match m.refusal with
    | some f => (.error f, s)
    | none => s.perform op

theorem Move.answer_spec (m : Move) (s : Store) (c : Effect) :
    (m.answer s c).2.tables = s.tables.after (History.performed [⟨c, (m.answer s c).1⟩]) ∧
      ((m.answer s c).2.closed = true →
        s.closed = true ∨ .close ∈ History.performed [⟨c, (m.answer s c).1⟩]) ∧
      ∀ op a, (⟨c, (m.answer s c).1⟩ : Exchange) = ⟨.perform op, .ok a⟩ →
        a = op.answer s.tables := by
  cases c with
  | ask query => exact ⟨rfl, Or.inl, fun _ _ h => by cases h⟩
  | load path => exact ⟨rfl, Or.inl, fun _ _ h => by cases h⟩
  | log line => exact ⟨rfl, Or.inl, fun _ _ h => by cases h⟩
  | perform op =>
      obtain ⟨i, w, refusal⟩ := m
      cases refusal with
      | some f => exact ⟨rfl, Or.inl, fun _ _ h => by cases h⟩
      | none =>
          change (s.perform op).2.tables = s.tables.after (History.performed
              [⟨.perform op, (s.perform op).1⟩]) ∧ ((s.perform op).2.closed = true → _ ∨
              .close ∈ History.performed [⟨.perform op, (s.perform op).1⟩]) ∧
            ∀ op' a, (⟨.perform op, (s.perform op).1⟩ : Exchange) = ⟨.perform op', .ok a⟩ → _
          by_cases refused : s.refuses op = true
          · rw [Store.perform_refused refused]
            exact ⟨rfl, Or.inl, fun _ _ h => by cases h⟩
          · have done : s.perform op = (.ok (op.answer s.tables), _) := if_neg refused
            rw [done]
            refine ⟨rfl, ?_, fun _ _ h => by cases h; rfl⟩
            intro closed
            rcases Bool.or_eq_true_iff.1 closed with closed | closed
            · exact .inl closed
            · refine .inr ?_
              cases op <;> first | exact List.mem_singleton_self _ | cases closed

namespace Crew

def start (ix : Indexer) (jobs : List Job) : Crew where
  attempts := jobs.map fun job => { job, rest := (job.attempt ix).run }
  store := .new

/-- An attempt that has ended moves no more. -/
def move (crew : Crew) (m : Move) : Crew :=
  match crew.attempts[m.attempt]? with
  | none => crew
  | some u =>
    match u.rest with
    | .done _ => crew
    | .call c next =>
      let (a, store) := m.answer crew.store c
      { attempts := crew.attempts.set m.attempt
          { u with past := u.past ++ [⟨c, a⟩], rest := next a }
        store }

def play (crew : Crew) (moves : List Move) : Crew := moves.foldl move crew

def gained (crew : Crew) (m : Move) : List Operation :=
  match crew.attempts[m.attempt]? with
  | none => []
  | some u =>
    match u.rest with
    | .done _ => []
    | .call c _ => History.performed [⟨c, (m.answer crew.store c).1⟩]

def done (crew : Crew) : List Move → List Operation
  | [] => []
  | m :: moves => crew.gained m ++ (crew.move m).done moves

def Ended (crew : Crew) : Prop := ∀ u ∈ crew.attempts, u.ended = true

instance (crew : Crew) : Decidable crew.Ended :=
  inferInstanceAs (Decidable (∀ u ∈ crew.attempts, u.ended = true))

variable {crew : Crew}

/-- All that a move can do: nothing, or one call of one attempt. -/
theorem move_cases (crew : Crew) (m : Move) :
    crew.move m = crew ∧ crew.gained m = [] ∨
      ∃ u c next, crew.attempts[m.attempt]? = some u ∧ u.rest = .call c next ∧
        crew.move m =
          { attempts := crew.attempts.set m.attempt
              { u with
                past := u.past ++ [⟨c, (m.answer crew.store c).1⟩]
                rest := next (m.answer crew.store c).1 }
            store := (m.answer crew.store c).2 } ∧
        crew.gained m = History.performed [⟨c, (m.answer crew.store c).1⟩] := by
  unfold move gained
  split
  · exact .inl ⟨rfl, rfl⟩
  · rename_i u found
    split
    · exact .inl ⟨rfl, rfl⟩
    · rename_i c next rest
      exact .inr ⟨u, c, next, found, rest, rfl, rfl⟩

theorem exists_mem_set {α : Type} {p : α → Prop} {items : List α} {i : Nat} {old new : α}
    (found : items[i]? = some old) (passes : p old → p new) (h : ∃ item ∈ items, p item) :
    ∃ item ∈ items.set i new, p item := by
  obtain ⟨item, member, holds⟩ := h
  obtain ⟨j, at_j⟩ := List.mem_iff_getElem?.1 member
  have inside : i < items.length := (List.getElem?_eq_some_iff.1 found).1
  by_cases same : i = j
  · subst same
    obtain rfl : item = old := Option.some.inj (at_j.symm.trans found)
    exact ⟨new, List.mem_set inside new, passes holds⟩
  · refine ⟨item, List.mem_iff_getElem?.2 ⟨j, ?_⟩, holds⟩
    rw [List.getElem?_set_ne same]
    exact at_j

/-- The operations that attempts got done on one store, in the order of their moves. -/
structure Log (crew : Crew) (log : List Operation) : Prop where
  tables : crew.store.tables = ({} : Tables).after log
  closed : crew.store.closed = true → .close ∈ log
  mem_iff : ∀ op, op ∈ log ↔ ∃ u ∈ crew.attempts, op ∈ u.past.performed
  answers : ∀ u ∈ crew.attempts, ∀ op a, (⟨.perform op, .ok a⟩ : Exchange) ∈ u.past →
    ∃ earlier, earlier <+: log ∧ a = op.answer (({} : Tables).after earlier)

theorem Log.move {log : List Operation} (h : crew.Log log) (m : Move) :
    (crew.move m).Log (log ++ crew.gained m) := by
  rcases crew.move_cases m with ⟨same, nothing⟩ | ⟨u, c, next, found, rest, moved, gains⟩
  · rw [same, nothing, List.append_nil]
    exact h
  · obtain ⟨tables, closed, answered⟩ := m.answer_spec crew.store c
    have present : u ∈ crew.attempts := List.mem_of_getElem? found
    have begun : log <+: log ++ History.performed [⟨c, (m.answer crew.store c).1⟩] :=
      List.prefix_append _ _
    rw [moved, gains]
    refine ⟨?_, ?_, ?_, ?_⟩
    · rw [Tables.after_append, ← h.tables]
      exact tables
    · intro shut
      rcases closed shut with shut | shut
      · exact List.mem_append_left _ (h.closed shut)
      · exact List.mem_append_right _ shut
    · intro op
      rw [List.mem_append]
      constructor
      · rintro (member | member)
        · refine exists_mem_set found ?_ ((h.mem_iff op).1 member)
          intro performed
          rw [History.performed_append]
          exact List.mem_append_left _ performed
        · refine ⟨_, List.mem_set (List.getElem?_eq_some_iff.1 found).1 _, ?_⟩
          rw [History.performed_append]
          exact List.mem_append_right _ member
      · rintro ⟨v, member, performed⟩
        rcases List.mem_or_eq_of_mem_set member with member | rfl
        · exact .inl ((h.mem_iff op).2 ⟨v, member, performed⟩)
        · rw [History.performed_append, List.mem_append] at performed
          exact performed.imp (fun performed => (h.mem_iff op).2 ⟨u, present, performed⟩) id
    · intro v member op a passed
      rcases List.mem_or_eq_of_mem_set member with member | rfl
      · obtain ⟨earlier, before, said⟩ := h.answers v member op a passed
        exact ⟨earlier, before.trans begun, said⟩
      · rcases List.mem_append.1 passed with passed | passed
        · obtain ⟨earlier, before, said⟩ := h.answers u present op a passed
          exact ⟨earlier, before.trans begun, said⟩
        · refine ⟨log, begun, ?_⟩
          rw [← h.tables]
          exact answered op a (List.mem_singleton.1 passed).symm

theorem Log.play {log : List Operation} (h : crew.Log log) (moves : List Move) :
    (crew.play moves).Log (log ++ crew.done moves) := by
  induction moves generalizing crew log with
  | nil => exact (List.append_nil log).symm ▸ h
  | cons m moves ih =>
      rw [done, ← List.append_assoc]
      exact ih (h.move m)

theorem log_start (ix : Indexer) (jobs : List Job) : (start ix jobs).Log [] := by
  have untouched : ∀ u ∈ (start ix jobs).attempts, u.past = [] := by
    intro u member
    obtain ⟨job, _, rfl⟩ := List.mem_map.1 member
    rfl
  refine ⟨rfl, nofun, ?_, ?_⟩
  · intro op
    refine ⟨nofun, ?_⟩
    rintro ⟨u, member, performed⟩
    rw [untouched u member] at performed
    cases performed
  · intro u member op a passed
    rw [untouched u member] at passed
    cases passed

theorem jobs_move (crew : Crew) (m : Move) :
    (crew.move m).attempts.map Underway.job = crew.attempts.map Underway.job := by
  rcases crew.move_cases m with ⟨same, _⟩ | ⟨u, c, next, found, rest, moved, _⟩
  · rw [same]
  · obtain ⟨inside, rfl⟩ := List.getElem?_eq_some_iff.1 found
    rw [moved, List.map_set, ← List.getElem_map Underway.job (h := by simpa using inside)]
    exact List.set_getElem_self _

theorem jobs_play (crew : Crew) (moves : List Move) :
    (crew.play moves).attempts.map Underway.job = crew.attempts.map Underway.job := by
  induction moves generalizing crew with
  | nil => rfl
  | cons m moves ih => exact (ih (crew.move m)).trans (crew.jobs_move m)

end Crew

/-- Every call was agreed on when it was made. -/
def History.Lawful (k : Contract) (past : History) : Prop :=
  ∀ before e, before ++ [e] <+: past → k.calls before e.call

theorem History.Lawful.concat {k : Contract} {past : History} (h : past.Lawful k) (e : Exchange)
    (agreed : k.calls past e.call) : History.Lawful k (past ++ [e]) := by
  intro before e' begun
  rcases List.prefix_concat_iff.1 begun with same | begun
  · obtain ⟨rfl, last⟩ := List.append_inj' same rfl
    cases last
    exact agreed
  · exact h before e' begun

theorem History.Lawful.of_mem {k : Contract} {past : History} (h : past.Lawful k) {e : Exchange}
    (member : e ∈ past) : ∃ before, before ++ [e] <+: past ∧ k.calls before e.call := by
  obtain ⟨before, after, rfl⟩ := List.append_of_mem member
  have begun : before ++ [e] <+: before ++ e :: after := ⟨after, by simp⟩
  exact ⟨before, begun, h before e begun⟩

/-- An attempt that has kept to a contract, and keeps to it on its way to what is wanted. -/
structure Underway.Keeps (k : Contract) (wanted : Job → Except Fault Unit → History → Prop)
    (u : Underway) : Prop where
  past : u.past.Lawful k
  rest : u.rest.Keeps k (wanted u.job) u.past

namespace Crew

variable {crew : Crew} {k : Contract} {wanted : Job → Except Fault Unit → History → Prop}

def Answers (k : Contract) (crew : Crew) (m : Move) : Prop :=
  ∀ u ∈ crew.attempts, ∀ c, k.calls u.past c → k.answers u.past c (m.answer crew.store c).1

theorem keeps_move {m : Move} (h : ∀ u ∈ crew.attempts, u.Keeps k wanted)
    (agreed : Answers k crew m) : ∀ u ∈ (crew.move m).attempts, u.Keeps k wanted := by
  rcases crew.move_cases m with ⟨same, _⟩ | ⟨u, c, next, found, rest, moved, _⟩
  · rw [same]
    exact h
  · rw [moved]
    have present : u ∈ crew.attempts := List.mem_of_getElem? found
    obtain ⟨lawful, keeps⟩ := h u present
    rw [rest] at keeps
    intro v member
    rcases List.mem_or_eq_of_mem_set member with member | rfl
    · exact h v member
    · exact ⟨lawful.concat _ keeps.1, keeps.2 _ (agreed u present c keeps.1)⟩

/-- Attempts that keep to a contract on their own keep to it together, as long as the moves are
answered as agreed from what they got done. -/
theorem keeps_play {ix : Indexer} {jobs : List Job} {moves : List Move}
    (keeps : ∀ job ∈ jobs, (job.attempt ix).run.Keeps k (wanted job) [])
    (agreed : ∀ m ∈ moves, ∀ (crew : Crew) (log : List Operation), crew.Log log →
      (∀ u ∈ crew.attempts, u.Keeps k wanted) → Answers k crew m) :
    ∀ u ∈ ((start ix jobs).play moves).attempts, u.Keeps k wanted := by
  have begun : ∀ u ∈ (start ix jobs).attempts, u.Keeps k wanted := by
    intro u member
    obtain ⟨job, given, rfl⟩ := List.mem_map.1 member
    refine ⟨?_, keeps job given⟩
    intro before e short
    exact absurd (List.prefix_nil.1 short) (by simp)
  suffices run : ∀ (crew : Crew) (log : List Operation), crew.Log log →
      (∀ u ∈ crew.attempts, u.Keeps k wanted) →
      ∀ u ∈ (crew.play moves).attempts, u.Keeps k wanted from
    run _ [] (log_start ix jobs) begun
  induction moves with
  | nil => exact fun _ _ _ h => h
  | cons m moves ih =>
      intro crew log shown h
      have next := keeps_move h (agreed m List.mem_cons_self crew log shown h)
      exact ih (fun m' member => agreed m' (List.mem_cons_of_mem _ member)) _ _ (shown.move m) next

theorem Log.agreed {log : List Operation} (shown : crew.Log log)
    (lawful : ∀ u ∈ crew.attempts, u.Keeps k wanted) {op : Operation} (done : op ∈ log) :
    ∃ u ∈ crew.attempts, ∃ before, before <+: u.past ∧ k.calls before (.perform op) := by
  obtain ⟨u, member, performed⟩ := (shown.mem_iff op).1 done
  obtain ⟨a, passed⟩ := History.mem_performed.1 performed
  obtain ⟨before, begun, permitted⟩ := (lawful u member).past.of_mem passed
  exact ⟨u, member, before, (List.prefix_append before _).trans begun, permitted⟩

end Crew

/-- All questions were answered as the node of a world always answers them. -/
def History.Heard (w : World) (past : History) : Prop :=
  ∀ query a, (⟨.ask query, a⟩ : Exchange) ∈ past → a = w.node query

namespace Crew

variable {crew : Crew} {w : World}

theorem heard_move (h : ∀ u ∈ crew.attempts, u.past.Heard w) (i : Nat) :
    ∀ u ∈ (crew.move { attempt := i, world := w }).attempts, u.past.Heard w := by
  rcases crew.move_cases { attempt := i, world := w } with
    ⟨same, _⟩ | ⟨u, c, next, found, rest, moved, _⟩
  · rw [same]
    exact h
  · rw [moved]
    intro v member
    rcases List.mem_or_eq_of_mem_set member with member | rfl
    · exact h v member
    · intro query a passed
      rcases List.mem_append.1 passed with passed | passed
      · exact h u (List.mem_of_getElem? found) query a passed
      · cases List.mem_singleton.1 passed
        rfl

theorem heard_play (ix : Indexer) (jobs : List Job) (schedule : List Nat) :
    ∀ u ∈ ((start ix jobs).play (w.moves schedule)).attempts, u.past.Heard w := by
  have begun : ∀ u ∈ (start ix jobs).attempts, u.past.Heard w := by
    intro u member
    obtain ⟨job, _, rfl⟩ := List.mem_map.1 member
    exact fun _ _ => nofun
  generalize start ix jobs = crew at begun
  induction schedule generalizing crew with
  | nil => exact begun
  | cons i schedule ih => exact ih _ (heard_move begun i)

end Crew

/-- A chain with one validator, which proposes and signs every block, and with no transactions. -/
def World.quiet : World where
  node
    | .genesis => .ok
      { chainId := "quiet", time := "2024-01-01T00:00:00Z", initialHeight := 1, appState := [] }
    | .latestHeight => .ok 9
    | .block height => .ok
      { height, hash := "", chainId := "quiet", proposerAddress := [1]
        timestamp := "2024-01-01T00:00:00Z", txs := []
        lastCommit := ⟨height - 1, [⟨[1], "2024-01-01T00:00:00Z", some [7]⟩]⟩ }
    | .blockResults height => .ok ⟨height, []⟩
    | .transactions b => .ok b.transactions
    | .validators height => .ok ⟨height, [⟨[1], [2], 5, 0⟩]⟩
    | .stakingPool _ => .ok ⟨"3", "4"⟩
    | .supply _ | .balance _ _ => .ok []
    | .inflation _ => .ok "0.1"
    | .ibcParams _ => .ok ⟨true, false⟩
  files _ := .error "no files"

def Indexer.quiet : Indexer where
  registry := ⟨[.consensus, .staking, .mint]⟩
  operators := [{ rawAddress := "01", operatorAddress := "operator", moniker := "one" }]

theorem Indexer.quiet_retains : quiet.registry.Retains := by
  intro config member
  simp [quiet] at member

end ChainIndexer
