import ChainIndexer.Worker

/-! No height is lost or duplicated. Workers share a pool and make their calls in any order, others
send heights and close the queue at any time, and attempts go well or not. A height that the queue
took waits, is worked on, was done, or was given back to a queue that was closed by then. -/
namespace ChainIndexer

/-- How a worker stands, as its calls and their answers tell. -/
inductive Standing where
  | free
  | taken (height : Height)
  /-- The attempt failed, and the height is still to be given back. -/
  | failed (height : Height)
  /-- The height is out of hand, and how the attempt went is still to be recorded. -/
  | settled (height : Height) (succeeded : Bool)
  deriving DecidableEq

namespace Standing

def after (s : Standing) : (c : Labour) → c.Answer → Standing
  | .look, .height h => .taken h
  | .look, .noMore | .look, .stop | .look, .nothing => .free
  | .attempt h, .ok () => .settled h true
  | .attempt h, .error _ => .failed h
  | .giveBack h, _ => .settled h false
  | .record _ _, _ => .free
  | .enter, _ | .log _, _ | .leave, _ => s

def Permits (s : Standing) : Labour → Prop
  | .enter | .look | .leave => s = .free
  | .attempt h => s = .taken h
  | .giveBack h => s = .failed h
  | .record h succeeded => s = .settled h succeeded
  | .log _ => True

def holds (x : Height) : Standing → Bool
  | .taken h | .failed h => h == x
  | .free | .settled _ _ => false

/-- An attempt that went this way is still to be recorded. -/
def owes (succeeded : Bool) : Standing → Bool
  | .settled _ s => s == succeeded
  | .failed _ => !succeeded
  | .free | .taken _ => false

end Standing

namespace Shift

variable {α β : Type}

/-- Every call is one that the worker makes as it stands then, and in the end it has no height. -/
def Orderly : Standing → Shift α → Prop
  | s, .done _ => s = .free
  | s, .call c next => s.Permits c ∧ ∀ a, Orderly (s.after c a) (next a)

theorem orderly_bind {p : Shift α} {f : α → Shift β} {s : Standing} (first : Orderly s p)
    (rest : ∀ value, Orderly .free (f value)) : Orderly s (p >>= f) := by
  induction p generalizing s with
  | done value =>
      obtain rfl : s = .free := first
      exact rest value
  | call c next ih => exact ⟨first.1, fun a => ih a (first.2 a)⟩

theorem orderly_handle (worker : Nat) (height : Height) :
    Orderly (.taken height) (handle worker height) := by
  refine ⟨rfl, fun result => ?_⟩
  cases result with
  | ok _ => exact ⟨rfl, fun _ => rfl⟩
  | error f =>
      refine ⟨trivial, fun _ => ⟨rfl, fun answer => ?_⟩⟩
      cases answer with
      | ok _ => exact ⟨rfl, fun _ => rfl⟩
      | error e => exact ⟨trivial, fun _ => ⟨rfl, fun _ => rfl⟩⟩

theorem orderly_turn (worker : Nat) : Orderly .free (turn worker) := by
  refine ⟨rfl, fun found => ?_⟩
  cases found with
  | height h =>
      have handled : Orderly (.taken h) (do handle worker h; return Found.height h) :=
        orderly_bind (orderly_handle worker h) fun _ => rfl
      exact handled
  | noMore | stop | nothing => exact rfl

theorem orderly_turns (worker limit : Nat) : Orderly .free (turns worker limit) := by
  induction limit with
  | zero => exact rfl
  | succ n ih =>
      refine orderly_bind (orderly_turn worker) fun found => ?_
      cases found with
      | height h => exact ih
      | noMore | stop | nothing => exact rfl

theorem orderly_run (worker limit : Nat) : Orderly .free (run worker limit) := by
  have looped : Orderly .free (do
      let ended ← turns worker limit
      perform .leave
      return ended) :=
    orderly_bind (orderly_turns worker limit) fun _ => ⟨rfl, fun _ => rfl⟩
  exact ⟨rfl, fun _ => looped⟩

end Shift

structure Hand where
  index : Nat
  standing : Standing := .free
  rest : Shift Bool

structure Ledger where
  /-- The queue took them from a producer. -/
  sent : List Height := []
  succeeded : List Height := []
  failed : List Height := []
  /-- The attempt failed, and the queue did not take them back. -/
  refused : List Height := []

def Ledger.note (l : Ledger) : (c : Labour) → c.Answer → Ledger
  | .attempt h, .ok () => { l with succeeded := h :: l.succeeded }
  | .attempt h, .error _ => { l with failed := h :: l.failed }
  | .giveBack h, .error _ => { l with refused := h :: l.refused }
  | .giveBack _, .ok () | .enter, _ | .look, _ | .record _ _, _ | .log _, _ | .leave, _ => l

structure Staff where
  hands : List Hand
  pool : Pool := {}
  ledger : Ledger := {}

inductive Event where
  /-- A worker makes its next call. If that is an attempt, it comes to this result. -/
  | work (hand : Nat) (result : Except Fault Unit)
  | send (height : Height)
  | close
  | raise

/-- Looking for work waits while there is nothing to find. -/
def Pool.holdsUp (p : Pool) : Labour → Bool
  | .look => p.take.1 == .nothing
  | _ => false

def Hand.perform (hand : Hand) (result : Except Fault Unit) (c : Labour) : StateM Pool c.Answer :=
  Worker.perform { index := hand.index, attempt := fun _ => pure result, log := fun _ => pure () } c

namespace Staff

def start (limits : List Nat) : Staff where
  hands := limits.mapIdx fun index limit => { index, rest := Shift.run index limit }

def work (s : Staff) (i : Nat) (result : Except Fault Unit) : Staff :=
  match s.hands[i]? with
  | none => s
  | some hand =>
    match hand.rest with
    | .done _ => s
    | .call c next =>
      if s.pool.holdsUp c then s
      else
        let (a, pool) := hand.perform result c s.pool
        { hands := s.hands.set i { hand with standing := hand.standing.after c a, rest := next a }
          pool
          ledger := s.ledger.note c a }

def send (s : Staff) (height : Height) : Staff :=
  let (answer, queue) := s.pool.queue.send height
  { s with
    pool := { s.pool with queue }
    ledger :=
      match answer with
      | .ok () => { s.ledger with sent := height :: s.ledger.sent }
      | .error _ => s.ledger }

def step (s : Staff) : Event → Staff
  | .work i result => s.work i result
  | .send height => s.send height
  | .close => { s with pool := { s.pool with queue := s.pool.queue.close.2 } }
  | .raise => { s with pool := { s.pool with signal := s.pool.signal.raise.2 } }

def play (s : Staff) (events : List Event) : Staff := events.foldl step s

variable {s : Staff}

/-- All that work can do: nothing, or one call of one worker that is not held up. -/
theorem work_cases (s : Staff) (i : Nat) (result : Except Fault Unit) :
    s.work i result = s ∨
      ∃ hand c next, s.hands[i]? = some hand ∧ hand.rest = .call c next ∧
        s.work i result =
          { hands := s.hands.set i
              { hand with
                standing := hand.standing.after c (hand.perform result c s.pool).1
                rest := next (hand.perform result c s.pool).1 }
            pool := (hand.perform result c s.pool).2
            ledger := s.ledger.note c (hand.perform result c s.pool).1 } := by
  unfold work
  split
  · exact .inl rfl
  · rename_i hand found
    split
    · exact .inl rfl
    · rename_i c next rest
      split
      · exact .inl rfl
      · exact .inr ⟨hand, c, next, found, rest, rfl⟩

theorem count_cons_eq (h x : Height) (hs : List Height) :
    (h :: hs).count x = hs.count x + (h == x).toNat := by
  rw [List.count_cons]
  cases h == x <;> rfl

/-- From one pool, ledger and standing of a worker to the next, heights only change their place. -/
structure Accounted (p : Pool) (l : Ledger) (w : Standing) (p' : Pool) (l' : Ledger)
    (w' : Standing) : Prop where
  sent : l'.sent = l.sent
  closed : p'.queue.closed = p.queue.closed
  refused : p.queue.closed = false → l'.refused = l.refused
  conserved : ∀ x, p'.queue.waiting.count x + (w'.holds x).toNat + l'.succeeded.count x +
      l'.refused.count x =
    p.queue.waiting.count x + (w.holds x).toNat + l.succeeded.count x + l.refused.count x
  processed : l'.succeeded.length + p.stats.processed + (w.owes true).toNat =
    l.succeeded.length + p'.stats.processed + (w'.owes true).toNat
  failed : l'.failed.length + p.stats.failed + (w.owes false).toNat =
    l.failed.length + p'.stats.failed + (w'.owes false).toNat

theorem Accounted.refl (p : Pool) (l : Ledger) (w : Standing) : Accounted p l w p l w :=
  ⟨rfl, rfl, fun _ => rfl, fun _ => rfl, rfl, rfl⟩

theorem accounted_perform (hand : Hand) (result : Except Fault Unit) (p : Pool) (l : Ledger)
    {w : Standing} {c : Labour} (permitted : w.Permits c) :
    Accounted p l w (hand.perform result c p).2 (l.note c (hand.perform result c p).1)
      (w.after c (hand.perform result c p).1) := by
  cases c with
  | enter => exact ⟨rfl, rfl, fun _ => rfl, fun _ => rfl, rfl, rfl⟩
  | leave => exact ⟨rfl, rfl, fun _ => rfl, fun _ => rfl, rfl, rfl⟩
  | log line => exact .refl p l w
  | look =>
      obtain rfl : w = .free := permitted
      change Accounted p l .free p.take.2 l (Standing.after .free .look p.take.1)
      obtain ⟨⟨waiting, closed, _, _⟩, ⟨raised, _⟩, stats⟩ := p
      cases waiting with
      | cons h waiting =>
          refine ⟨rfl, rfl, fun _ => rfl, fun x => ?_, rfl, rfl⟩
          simp [Pool.take, HeightQueue.tryReceive, Standing.after, Standing.holds, count_cons_eq]
      | nil => cases closed <;> cases raised <;> exact .refl _ l .free
  | attempt h =>
      obtain rfl : w = .taken h := permitted
      change Accounted p l _ p (l.note (.attempt h) result) (Standing.after _ (.attempt h) result)
      cases result with
      | ok _ =>
          refine ⟨rfl, rfl, fun _ => rfl, fun x => ?_, ?_, rfl⟩
          · simp only [Ledger.note, Standing.after, Standing.holds, count_cons_eq, Bool.toNat_false]
            omega
          · change l.succeeded.length + 1 + _ + 0 = l.succeeded.length + _ + 1
            omega
      | error f =>
          refine ⟨rfl, rfl, fun _ => rfl, fun x => rfl, rfl, ?_⟩
          change l.failed.length + 1 + _ + 0 = l.failed.length + _ + 1
          omega
  | giveBack h =>
      obtain rfl : w = .failed h := permitted
      change Accounted p l _ (p.giveBack h).2 (l.note (.giveBack h) (p.giveBack h).1)
        (.settled h false)
      cases closed : p.queue.closed with
      | false =>
          rw [Pool.giveBack, HeightQueue.send_open closed]
          refine ⟨rfl, rfl, fun _ => rfl, fun x => ?_, rfl, rfl⟩
          simp only [Ledger.note, Standing.holds, List.count_append, count_cons_eq, List.count_nil,
            Bool.toNat_false]
          omega
      | true =>
          rw [Pool.giveBack, HeightQueue.send_closed closed]
          refine ⟨rfl, rfl, fun shut => (nomatch closed.symm.trans shut), fun x => ?_, rfl, rfl⟩
          simp only [Ledger.note, Standing.holds, count_cons_eq, Bool.toNat_false]
          omega
  | record h succeeded =>
      obtain rfl : w = .settled h succeeded := permitted
      cases succeeded with
      | true => exact ⟨rfl, rfl, fun _ => rfl, fun x => rfl, rfl, rfl⟩
      | false => exact ⟨rfl, rfl, fun _ => rfl, fun x => rfl, rfl, rfl⟩

/-- The heights that the queue took are accounted for, and so are all attempts. -/
structure Sound (s : Staff) : Prop where
  orderly : ∀ hand ∈ s.hands, Shift.Orderly hand.standing hand.rest
  conserved : ∀ x, s.ledger.sent.count x =
    s.pool.queue.waiting.count x + s.hands.countP (·.standing.holds x) +
      s.ledger.succeeded.count x + s.ledger.refused.count x
  refused : s.pool.queue.closed = false → s.ledger.refused = []
  processed : s.ledger.succeeded.length =
    s.pool.stats.processed + s.hands.countP (·.standing.owes true)
  failed : s.ledger.failed.length =
    s.pool.stats.failed + s.hands.countP (·.standing.owes false)

theorem countP_set {hands : List Hand} {i : Nat} {old : Hand} (found : hands[i]? = some old)
    (new : Hand) (p : Hand → Bool) :
    (hands.set i new).countP p + (p old).toNat = hands.countP p + (p new).toNat := by
  obtain ⟨inside, here⟩ := List.getElem?_eq_some_iff.1 found
  have counted : (p old).toNat ≤ hands.countP p := by
    cases counts : p old with
    | false => exact Nat.zero_le _
    | true => exact List.countP_pos_iff.2 ⟨old, List.mem_of_getElem? found, counts⟩
  rw [List.countP_set inside, here, ← Bool.cond_eq_ite, ← Bool.cond_eq_ite]
  change _ - (p old).toNat + (p new).toNat + _ = _
  omega

theorem Sound.work (h : s.Sound) (i : Nat) (result : Except Fault Unit) :
    (s.work i result).Sound := by
  rcases s.work_cases i result with same | ⟨hand, c, next, found, rest, worked⟩
  · rw [same]
    exact h
  · have orderly := h.orderly hand (List.mem_of_getElem? found)
    rw [rest] at orderly
    -- All others stand as before, so that each count changes as this worker does.
    have step := accounted_perform hand result s.pool s.ledger orderly.1
    have counted := countP_set found { hand with
      standing := hand.standing.after c (hand.perform result c s.pool).1
      rest := next (hand.perform result c s.pool).1 }
    rw [worked]
    refine ⟨?_, ?_, ?_, ?_, ?_⟩
    · intro other member
      rcases List.mem_or_eq_of_mem_set member with present | rfl
      · exact h.orderly other present
      · exact orderly.2 _
    · intro x
      have before := h.conserved x
      have here := step.conserved x
      have counted := counted (·.standing.holds x)
      dsimp only at counted ⊢
      rw [step.sent]
      omega
    · intro opened
      rw [step.closed] at opened
      rw [step.refused opened, h.refused opened]
    · have before := h.processed
      have here := step.processed
      have counted := counted (·.standing.owes true)
      dsimp only at counted ⊢
      omega
    · have before := h.failed
      have here := step.failed
      have counted := counted (·.standing.owes false)
      dsimp only at counted ⊢
      omega

theorem Sound.send (h : s.Sound) (height : Height) : (s.send height).Sound := by
  obtain ⟨orderly, conserved, refused, processed, failed⟩ := h
  unfold Staff.send
  cases closed : s.pool.queue.closed with
  | false =>
      rw [HeightQueue.send_open closed]
      refine ⟨orderly, fun x => ?_, refused, processed, failed⟩
      have before := conserved x
      simp only [List.count_append, count_cons_eq, List.count_nil]
      omega
  | true =>
      rw [HeightQueue.send_closed closed]
      exact ⟨orderly, conserved, refused, processed, failed⟩

theorem Sound.step (h : s.Sound) (event : Event) : (s.step event).Sound := by
  cases event with
  | work i result => exact h.work i result
  | send height => exact h.send height
  | close => exact ⟨h.orderly, h.conserved, nofun, h.processed, h.failed⟩
  | raise => exact ⟨h.orderly, h.conserved, h.refused, h.processed, h.failed⟩

theorem Sound.play (h : s.Sound) (events : List Event) : (s.play events).Sound := by
  induction events generalizing s with
  | nil => exact h
  | cons event events ih => exact ih (h.step event)

theorem sound_start (limits : List Nat) : (start limits).Sound := by
  have fresh : ∀ hand ∈ (start limits).hands,
      hand.standing = .free ∧ Shift.Orderly hand.standing hand.rest := by
    intro hand member
    obtain ⟨i, _, rfl⟩ := List.mem_mapIdx.1 member
    exact ⟨rfl, Shift.orderly_run _ _⟩
  have idle (p : Standing → Bool) (free : p .free = false) :
      (start limits).hands.countP (fun hand => p hand.standing) = 0 := by
    refine List.countP_eq_zero.2 fun hand member => ?_
    rw [(fresh hand member).1, free]
    exact Bool.false_ne_true
  refine ⟨fun hand member => (fresh hand member).2, fun x => ?_, fun _ => rfl, ?_, ?_⟩
  · rw [idle _ rfl]
    rfl
  · rw [idle _ rfl]
    rfl
  · rw [idle _ rfl]
    rfl

/-- The states that workers come to, given how many turns each of them makes at most. -/
def Reachable (s : Staff) : Prop := ∃ limits events, s = (start limits).play events

/-- No worker has a result that it has still to record. -/
def Recorded (s : Staff) : Prop := ∀ hand ∈ s.hands, ∀ b, hand.standing.owes b = false

/-- A height that the queue took from a producer waits, or a worker has it in hand, or an attempt at
it went well, or it was given back to a queue that was closed by then; as often as it was taken,
and whatever the workers, the producers and the attempts do. The gauges tell how many attempts went
well, and how many failed. -/
theorem no_height_lost_or_duplicated (reached : s.Reachable) :
    (∀ x, s.ledger.sent.count x =
      s.pool.queue.waiting.count x + s.hands.countP (·.standing.holds x) +
        s.ledger.succeeded.count x + s.ledger.refused.count x) ∧
    (s.pool.queue.closed = false → ∀ x, s.ledger.refused.count x = 0) ∧
    (s.Recorded →
      s.pool.stats.processed = s.ledger.succeeded.length ∧
      s.pool.stats.failed = s.ledger.failed.length) := by
  obtain ⟨limits, events, rfl⟩ := reached
  obtain ⟨_, conserved, refused, processed, failed⟩ := (sound_start limits).play events
  refine ⟨conserved, fun closed x => ?_, fun recorded => ?_⟩
  · rw [refused closed, List.count_nil]
  · have none_owed (b : Bool) :
        ((start limits).play events).hands.countP (·.standing.owes b) = 0 :=
      List.countP_eq_zero.2 fun hand member => Bool.eq_false_iff.1 (recorded hand member b)
    rw [processed, failed, none_owed, none_owed]
    exact ⟨rfl, rfl⟩

/-- One worker does the height 7. The other one fails at 8, when the queue is closed already. -/
def closing : List Event :=
  let well := .ok ()
  let badly := .error { kind := .nodeFault }
  [.send 7, .work 0 well, .work 0 well, .send 8, .work 1 well, .send 9, .work 1 well,
    .work 1 badly, .close, .work 0 well, .send 10, .work 1 well, .work 0 well, .work 1 well,
    .work 1 well, .work 1 well]

theorem no_height_lost_or_duplicated_closing :
    ∃ s : Staff, s = (start [1, 1]).play closing ∧ s.Reachable ∧ s.Recorded ∧
      s.pool.queue.closed = true ∧ s.ledger.refused = [8] ∧
      (∀ x, [9, 8, 7].count x =
        [9].count x + s.hands.countP (·.standing.holds x) + [7].count x + [8].count x) ∧
      1 = s.ledger.succeeded.length ∧ 1 = s.ledger.failed.length := by
  have reached : Reachable ((start [1, 1]).play closing) := ⟨_, _, rfl⟩
  have recorded : Recorded ((start [1, 1]).play closing) := by unfold Recorded; decide
  obtain ⟨conserved, _, gauges⟩ := no_height_lost_or_duplicated reached
  exact ⟨_, rfl, reached, recorded, rfl, rfl, conserved, gauges recorded⟩

end Staff
end ChainIndexer
