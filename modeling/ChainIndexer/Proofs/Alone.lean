import ChainIndexer.Proofs.Crew

/-! One attempt alone. With no others at work on the store, everything that an attempt does is
settled by the tables it begins with. If some write of it is refused, and all writes after it, then
what it leaves behind is the beginning of what it would have written. -/
namespace ChainIndexer

def Operation.isWrite : Operation → Bool
  | hasBlock _ | lastBlockHeight | lastBlock | blockSince _ | validator _ | genesis | lastPruned
  | close => false
  | _ => true

theorem Operation.effect_of_read {op : Operation} (read : op.isWrite = false) (t : Tables) :
    op.effect t = t := by
  cases op <;> first | rfl | cases read

theorem Tables.after_filter_isWrite (t : Tables) (ops : List Operation) :
    t.after (ops.filter Operation.isWrite) = t.after ops := by
  induction ops generalizing t with
  | nil => rfl
  | cons op ops ih =>
      cases write : op.isWrite with
      | true => rw [List.filter_cons_of_pos write, after_cons, after_cons, ih]
      | false =>
          rw [List.filter_cons_of_neg (by simp [write]), after_cons,
            Operation.effect_of_read write, ih]

def Effect.isWrite : Effect → Bool
  | .perform op => op.isWrite
  | _ => false

namespace World

def handle (w : World) (c : Effect) : StateM Store c.Answer := fun s =>
  Move.answer { attempt := 0, world := w } s c

/-- A disturbance: how many writes are accepted, and how those after them are refused. -/
structure Cut where
  writes : Nat
  refusal : Nat → Fault

/-- Calls of an attempt that is disturbed, with the number of writes that it came to. -/
def handleCut (w : World) (cut : Cut) (c : Effect) : StateM (Store × Nat) c.Answer :=
  fun (s, made) =>
    let m : Move :=
      { attempt := 0, world := w
        refusal := if c.isWrite ∧ cut.writes ≤ made then some (cut.refusal made) else none }
    ((m.answer s c).1, ((m.answer s c).2, if c.isWrite then made + 1 else made))

def complete (w : World) {α : Type} (p : Attempt α) (s : Store) : Store :=
  (Program.run w.handle p.run s).2

def outcome (w : World) {α : Type} (p : Attempt α) (s : Store) : Except Fault α :=
  (Program.run w.handle p.run s).1

def cutShort (w : World) {α : Type} (p : Attempt α) (s : Store) (cut : Cut) : Store :=
  (Program.run (w.handleCut cut) p.run (s, 0)).2.1

end World

variable {α β : Type} {w : World}

/-- What a program comes to if it is alone, and the operations that it performs, from the tables
that it finds. -/
def Program.alone (w : World) : Program effects α → Tables → α × List Operation
  | .done value, _ => (value, [])
  | .call (.ask query) next, t => (next (w.node query)).alone w t
  | .call (.load path) next, t => (next (w.files path)).alone w t
  | .call (.log _) next, t => (next ()).alone w t
  | .call (.perform op) next, t =>
    let later := (next (.ok (op.answer t))).alone w (op.effect t)
    (later.1, op :: later.2)

theorem Program.alone_bind (p : Program effects α) (f : α → Program effects β) (t : Tables) :
    (p.bind f).alone w t =
      ((f (p.alone w t).1).alone w (t.after (p.alone w t).2) |>.1,
        (p.alone w t).2 ++ ((f (p.alone w t).1).alone w (t.after (p.alone w t).2)).2) := by
  induction p generalizing t with
  | done value => rfl
  | call c next ih =>
      cases c with
      | ask query => exact ih (w.node query) t
      | load path => exact ih (w.files path) t
      | log line => exact ih () t
      | perform op =>
          have rest := ih (.ok (op.answer t)) (op.effect t)
          change (_, op :: _) = _
          rw [rest]
          rfl

section Runs

variable {wanted : α → History → Prop} {past : History}

theorem run_handle {p : Program effects α} {s : Store} (opened : s.closed = false)
    (leaves : p.Keeps (.only (· ≠ .perform .close)) wanted past) :
    Program.run w.handle p s = ((p.alone w s.tables).1,
      { tables := s.tables.after (p.alone w s.tables).2, closed := false }) := by
  induction p generalizing s past with
  | done value =>
      obtain ⟨tables, closed⟩ := s
      cases opened
      rfl
  | call c next ih =>
      cases c with
      | ask query => exact ih (w.node query) opened (leaves.2 _ trivial)
      | load path => exact ih (w.files path) opened (leaves.2 _ trivial)
      | log line => exact ih () opened (leaves.2 _ trivial)
      | perform op =>
          change Program.run w.handle (next (s.perform op).1) (s.perform op).2 = _
          rw [Store.perform_opened opened fun same => leaves.1 (congrArg _ same)]
          exact ih (.ok (op.answer s.tables)) (s := { tables := op.effect s.tables }) rfl
            (leaves.2 _ trivial)

variable {cut : World.Cut} {made : Nat}

theorem answer_write {op : Operation} (write : op.isWrite = true) (accepted : made < cut.writes)
    (s : Store) :
    w.handleCut cut (.perform op) (s, made) = ((s.perform op).1, ((s.perform op).2, made + 1)) := by
  simp [World.handleCut, Effect.isWrite, write, Move.answer, Nat.not_le.2 accepted]

theorem answer_read {op : Operation} (read : op.isWrite = false) (s : Store) :
    w.handleCut cut (.perform op) (s, made) = ((s.perform op).1, ((s.perform op).2, made)) := by
  simp [World.handleCut, Effect.isWrite, read, Move.answer]

theorem answer_refused {op : Operation} (write : op.isWrite = true) (refused : cut.writes ≤ made)
    (s : Store) :
    w.handleCut cut (.perform op) (s, made) = (.error (cut.refusal made), (s, made + 1)) := by
  simp [World.handleCut, Effect.isWrite, write, Move.answer, refused]

theorem run_refused {p : Program effects α} {s : Store} (opened : s.closed = false)
    (leaves : p.Keeps (.only (· ≠ .perform .close)) wanted past) (refused : cut.writes ≤ made) :
    (Program.run (w.handleCut cut) p (s, made)).2.1 = s := by
  induction p generalizing past made with
  | done value => rfl
  | call c next ih =>
      cases c with
      | ask query => exact ih (w.node query) (leaves.2 _ trivial) refused
      | load path => exact ih (w.files path) (leaves.2 _ trivial) refused
      | log line => exact ih () (leaves.2 _ trivial) refused
      | perform op =>
          change (Program.run (w.handleCut cut) (next (w.handleCut cut (.perform op) (s, made)).1)
            (w.handleCut cut (.perform op) (s, made)).2).2.1 = s
          cases write : op.isWrite with
          | true =>
              rw [answer_refused write refused]
              exact ih _ (leaves.2 _ trivial) (Nat.le_succ_of_le refused)
          | false =>
              have same : { tables := op.effect s.tables, closed := false } = s := by
                rw [Operation.effect_of_read write, ← opened]
              rw [answer_read write,
                Store.perform_opened opened fun same => leaves.1 (congrArg _ same), same]
              exact ih _ (leaves.2 _ trivial) refused

/-- A program that is cut short leaves behind the first writes of those that it does alone. -/
theorem run_handleCut {p : Program effects α} {s : Store} (opened : s.closed = false)
    (leaves : p.Keeps (.only (· ≠ .perform .close)) wanted past) :
    (Program.run (w.handleCut cut) p (s, made)).2.1 =
      { tables := s.tables.after
          (((p.alone w s.tables).2.filter Operation.isWrite).take (cut.writes - made))
        closed := false } := by
  induction p generalizing s made past with
  | done value =>
      obtain ⟨tables, closed⟩ := s
      cases opened
      cases cut.writes - made <;> rfl
  | call c next ih =>
      cases c with
      | ask query => exact ih (w.node query) opened (leaves.2 _ trivial)
      | load path => exact ih (w.files path) opened (leaves.2 _ trivial)
      | log line => exact ih () opened (leaves.2 _ trivial)
      | perform op =>
          have performed :=
            Store.perform_opened opened fun same => leaves.1 (congrArg Effect.perform same)
          have rest (made : Nat) :
              (Program.run (w.handleCut cut) (next (.ok (op.answer s.tables)))
                ({ tables := op.effect s.tables }, made)).2.1 = _ :=
            ih (.ok (op.answer s.tables)) (s := { tables := op.effect s.tables }) rfl
              (leaves.2 _ trivial)
          change (Program.run (w.handleCut cut) (next (w.handleCut cut (.perform op) (s, made)).1)
            (w.handleCut cut (.perform op) (s, made)).2).2.1 =
            { tables := s.tables.after
                ((List.filter Operation.isWrite (op :: _)).take (cut.writes - made))
              closed := false }
          cases write : op.isWrite with
          | true =>
              rw [List.filter_cons_of_pos write]
              rcases Nat.lt_or_ge made cut.writes with accepted | refused
              · have left : cut.writes - made = cut.writes - (made + 1) + 1 := by omega
                rw [answer_write write accepted, performed, left]
                exact rest (made + 1)
              · rw [answer_refused write refused,
                  run_refused opened (leaves.2 _ trivial) (Nat.le_succ_of_le refused),
                  Nat.sub_eq_zero_of_le refused]
                obtain ⟨tables, closed⟩ := s
                cases opened
                rfl
          | false =>
              rw [List.filter_cons_of_neg (by simp [write]), answer_read write, performed]
              refine (rest made).trans ?_
              rw [Operation.effect_of_read write]

end Runs

namespace Attempt

def alone (w : World) (p : Attempt α) (t : Tables) : Except Fault α × List Operation :=
  Program.alone w p.run t

theorem alone_bind_ok {p : Attempt α} {f : α → Attempt β} {t : Tables} {value : α}
    (ended : (p.alone w t).1 = .ok value) :
    (p >>= f).alone w t = (((f value).alone w (t.after (p.alone w t).2)).1,
      (p.alone w t).2 ++ ((f value).alone w (t.after (p.alone w t).2)).2) := by
  have split := Program.alone_bind (w := w) p.run (ExceptT.bindCont f) t
  have ended : (Program.alone w p.run t).1 = .ok value := ended
  rw [ended] at split
  exact split

theorem alone_bind_error {p : Attempt α} {f : α → Attempt β} {t : Tables} {fault : Fault}
    (ended : (p.alone w t).1 = .error fault) :
    (p >>= f).alone w t = (.error fault, (p.alone w t).2) := by
  have split := Program.alone_bind (w := w) p.run (ExceptT.bindCont f) t
  have ended : (Program.alone w p.run t).1 = .error fault := ended
  rw [ended] at split
  exact split.trans (congrArg (Prod.mk _) (List.append_nil _))

theorem alone_bind_congr {p : Attempt α} {f : α → Attempt β} {t u : Tables}
    (first : p.alone w t = p.alone w u)
    (rest : ∀ value, (p.alone w t).1 = .ok value →
      (f value).alone w (t.after (p.alone w t).2) = (f value).alone w (u.after (p.alone w t).2)) :
    (p >>= f).alone w t = (p >>= f).alone w u := by
  cases ended : (p.alone w t).1 with
  | ok value =>
      have ended' : (p.alone w u).1 = .ok value := first ▸ ended
      rw [alone_bind_ok ended, alone_bind_ok ended', ← first, rest value ended]
  | error fault =>
      have ended' : (p.alone w u).1 = .error fault := first ▸ ended
      rw [alone_bind_error ended, alone_bind_error ended', first]

theorem allowed_of_mem_alone {allowed : Effect → Prop} {p : Attempt α} (made : p.Calls allowed)
    {t : Tables} : ∀ op ∈ (p.alone w t).2, allowed (.perform op) := by
  have made : Program.Keeps (.only allowed) _ p.run [] := made []
  unfold alone
  generalize p.run = program at made ⊢
  generalize ([] : History) = past at made
  induction program generalizing t past with
  | done value => exact nofun
  | call c next ih =>
      cases c with
      | ask query => exact ih _ _ (made.2 _ trivial)
      | load path => exact ih _ _ (made.2 _ trivial)
      | log line => exact ih _ _ (made.2 _ trivial)
      | perform op =>
          intro op' member
          rcases List.mem_cons.1 member with rfl | member
          · exact made.1
          · exact ih _ _ (made.2 _ trivial) op' member

/-- From related tables on, the attempt does the same, and the tables stay related. -/
def Alike (w : World) (related : Tables → Tables → Prop) (p : Attempt α) : Prop :=
  ∀ t u, related t u → p.alone w t = p.alone w u ∧
    related (t.after (p.alone w t).2) (u.after (p.alone w t).2)

variable {related : Tables → Tables → Prop}

theorem alike_pure (value : α) : (pure value : Attempt α).Alike w related :=
  fun _ _ h => ⟨rfl, h⟩

theorem alike_liftExcept (e : Except Fault α) : Alike w related (liftExcept e) := by
  intro t u h
  cases e <;> exact ⟨rfl, h⟩

theorem alike_bind {p : Attempt α} {f : α → Attempt β} (first : p.Alike w related)
    (rest : ∀ value, (f value).Alike w related) : (p >>= f).Alike w related := by
  intro t u h
  obtain ⟨same, h⟩ := first t u h
  refine ⟨alone_bind_congr same fun value _ => (rest value _ _ h).1, ?_⟩
  cases ended : (p.alone w t).1 with
  | ok value =>
      rw [alone_bind_ok ended, Tables.after_append, Tables.after_append]
      exact (rest value _ _ h).2
  | error fault =>
      rw [alone_bind_error ended]
      exact h

theorem alike_of_calls {allowed : Effect → Prop} {p : Attempt α} (made : p.Calls allowed)
    (alike : ∀ op, allowed (.perform op) → ∀ t u, related t u →
      op.answer t = op.answer u ∧ related (op.effect t) (op.effect u)) : p.Alike w related := by
  intro t u h
  have made : Program.Keeps (.only allowed) _ p.run [] := made []
  change Program.alone w p.run t = Program.alone w p.run u ∧ _
  unfold alone
  generalize p.run = program at made ⊢
  generalize ([] : History) = past at made
  induction program generalizing t u past with
  | done value => exact ⟨rfl, h⟩
  | call c next ih =>
      cases c with
      | ask query => exact ih _ t u h _ (made.2 _ trivial)
      | load path => exact ih _ t u h _ (made.2 _ trivial)
      | log line => exact ih _ t u h _ (made.2 _ trivial)
      | perform op =>
          obtain ⟨same, h⟩ := alike op made.1 t u h
          obtain ⟨same', h⟩ := ih (.ok (op.answer t)) _ _ h _ (made.2 _ trivial)
          refine ⟨?_, h⟩
          unfold Program.alone
          rw [← same, ← same']

theorem alone_outcome (p : Attempt α) (t : Tables) :
    (outcome p).alone w t = (.ok (p.alone w t).1, (p.alone w t).2) := by
  refine (Program.alone_bind p.run _ t).trans ?_
  exact congrArg (Prod.mk _) (List.append_nil _)

theorem alike_outcome {p : Attempt α} (h : p.Alike w related) : (outcome p).Alike w related := by
  intro t u start
  obtain ⟨same, kept⟩ := h t u start
  rw [alone_outcome, alone_outcome, ← same]
  exact ⟨rfl, kept⟩

theorem alike_forM {f : γ → Attempt PUnit} {items : List γ}
    (each : ∀ item ∈ items, (f item).Alike w related) : (items.forM f).Alike w related := by
  induction items with
  | nil => exact alike_pure _
  | cons item items ih =>
      refine alike_bind (each item List.mem_cons_self) fun _ => ih ?_
      exact fun item' member => each item' (List.mem_cons_of_mem _ member)

theorem alike_log {line : LogLine} : (log line).Alike w related := fun _ _ h => ⟨rfl, h⟩

theorem alike_dispatch {handler? : Module → Option (Attempt Unit)}
    {report : Module → Fault → LogLine} {modules : List Module}
    (each : ∀ m ∈ modules, ∀ handler, handler? m = some handler → handler.Alike w related) :
    (Registry.dispatch handler? report modules).Alike w related := by
  induction modules with
  | nil => exact alike_pure _
  | cons m ms ih =>
      have later := ih fun m' member => each m' (List.mem_cons_of_mem _ member)
      have rest (n : Nat) : (do return n + (← Registry.dispatch handler? report ms) :
          Attempt Nat).Alike w related := alike_bind later fun _ => alike_pure _
      unfold Registry.dispatch
      cases found : handler? m with
      | none => exact rest 0
      | some handler =>
          refine alike_bind ?_ rest
          refine alike_bind (alike_outcome (each m List.mem_cons_self handler found)) fun e => ?_
          cases e with
          | ok _ => exact alike_pure _
          | error f => exact alike_bind alike_log fun _ => alike_pure _

theorem alone_logs (lines : List LogLine) (t : Tables) :
    (lines.forM log).alone w t = (.ok (), []) := by
  induction lines with
  | nil => rfl
  | cons line lines ih => exact ih

theorem alone_blockSince (time : Instant) (t : Tables) :
    (blockSince time).alone w t = (.ok (t.blockSince time).found, [.blockSince time]) := by
  have asked : (perform (.blockSince time)).alone w t =
      (.ok (t.blockSince time), [.blockSince time]) := rfl
  have logged := alone_logs (w := w) (t.blockSince time).warnings (t.after [.blockSince time])
  unfold blockSince
  rw [alone_bind_ok (congrArg Prod.fst asked), asked, alone_bind_ok (congrArg Prod.fst logged),
    logged]
  rfl

end Attempt

end ChainIndexer
