import ChainIndexer.Program
import ChainIndexer.Proofs.Following
import ChainIndexer.Service

/-! Heights that are sent one at a time. Backfill and following send a range of them at once; here
each height is a call of its own, which a queue may take or refuse, so that others may send
something between two of them. Left alone, such a sender comes to what sending the ranges comes
to. -/
namespace ChainIndexer

/-- Heights are sent one at a time, and each time the queue may refuse. -/
abbrev sending : Interface := ⟨Height, fun _ => Except QueueError Unit⟩

abbrev Sender := Program sending

namespace Sender

variable {α β : Type}

def ended : Sender α → Bool
  | .done _ => true
  | .call _ _ => false

def offer (height : Height) : StateM HeightQueue (Except QueueError Unit) := fun q => q.send height

def alone (p : Sender α) (q : HeightQueue) : α × HeightQueue := Program.run (I := sending) offer p q

/-- What a sender comes to and what it sends, as long as nothing is refused. -/
def accepted : Sender α → α × List Height
  | .done value => (value, [])
  | .call height next =>
    let later := accepted (next (.ok ()))
    (later.1, height :: later.2)

theorem alone_call (height : Height) (next : Except QueueError Unit → Sender α) (q : HeightQueue) :
    alone (.call height next) q = alone (next (q.send height).1) (q.send height).2 := rfl

theorem alone_bind (p : Sender α) (f : α → Sender β) (q : HeightQueue) :
    alone (p.bind f) q = alone (f (p.alone q).1) (p.alone q).2 :=
  congrFun (Program.run_bind (I := sending) offer p f) q

theorem accepted_bind (p : Sender α) (f : α → Sender β) :
    accepted (p.bind f) = ((f p.accepted.1).accepted.1,
      p.accepted.2 ++ (f p.accepted.1).accepted.2) := by
  induction p with
  | done value => rfl
  | call height next ih =>
      have rest := ih (.ok ())
      change ((accepted ((next (.ok ())).bind f)).1,
        height :: (accepted ((next (.ok ())).bind f)).2) = _
      rw [rest]
      rfl

theorem alone_open (p : Sender α) {q : HeightQueue} (opened : q.closed = false) :
    p.alone q = (p.accepted.1, { q with waiting := q.waiting ++ p.accepted.2 }) := by
  induction p generalizing q with
  | done value => exact congrArg (value, ·) (by rw [accepted, List.append_nil])
  | call height next ih =>
      rw [alone_call, HeightQueue.send_open opened]
      refine (ih (.ok ()) (q := { q with waiting := q.waiting ++ [height] }) opened).trans ?_
      rw [List.append_assoc]
      rfl

theorem eq_done_of_ended {p : Sender α} (h : p.ended = true) :
    p = .done p.accepted.1 ∧ p.accepted.2 = [] := by
  cases p with
  | done value => exact ⟨rfl, rfl⟩
  | call height next => cases h

/-- Sends heights in order and counts them, until one is refused. The number is a natural number:
all 2^64 heights there are, the only number that 64 bits do not hold, are more than a queue has
room for. -/
def sendEach : List Height → Nat → Sender (Except QueueError Nat)
  | [], count => .done (.ok count)
  | height :: rest, count => .call height fun
    | .ok () => sendEach rest (count + 1)
    | .error e => .done (.error e)

theorem accepted_sendEach (heights : List Height) (count : Nat) :
    (sendEach heights count).accepted = (.ok (count + heights.length), heights) := by
  induction heights generalizing count with
  | nil => rfl
  | cons height rest ih =>
      change ((sendEach rest (count + 1)).accepted.1,
        height :: (sendEach rest (count + 1)).accepted.2) = _
      rw [ih, List.length_cons, Nat.add_assoc, Nat.add_comm 1]

/-- One by one, heights are taken or refused as they are all at once. -/
theorem alone_sendEach (heights : List Height) (count : Nat) (q : HeightQueue) :
    (sendEach heights count).alone q =
      ((q.sendAll heights).1.map fun _ => count + heights.length, (q.sendAll heights).2) := by
  cases closed : q.closed with
  | false =>
      rw [alone_open _ closed, accepted_sendEach, HeightQueue.sendAll_open closed]
      rfl
  | true =>
      cases heights with
      | nil => rfl
      | cons height rest =>
          rw [sendEach, alone_call, HeightQueue.send_closed closed,
            HeightQueue.sendAll_closed closed]
          rfl

end Sender

/-! Backfill, height by height. -/

namespace Backfill

def sender (b : Backfill) : Sender (Except QueueError Nat) := Sender.sendEach b.toList 0

theorem get?_of_lt {b : Backfill} {i : Nat} (inside : i < b.blocks) :
    b.get? (if b.genesis then i + 1 else i) = some (.ofNat (b.first.toNat + i)) := by
  obtain ⟨genesis, first, blocks⟩ := b
  cases genesis with
  | false => simp_all [get?, size]
  | true => simp_all [get?, size]; omega

theorem filterMap_get? (b : Backfill) {is : List Nat} (inside : ∀ i ∈ is, i < b.blocks) :
    is.filterMap (fun i => b.get? (if b.genesis then i + 1 else i)) =
      is.map fun i => UInt64.ofNat (b.first.toNat + i) := by
  induction is with
  | nil => rfl
  | cons i is ih =>
      rw [List.filterMap_cons, get?_of_lt (inside i List.mem_cons_self), List.map_cons,
        ih fun i' member => inside i' (List.mem_cons_of_mem _ member)]

theorem toList_eq (b : Backfill) :
    b.toList = (if b.genesis then [0] else []) ++
      (List.range b.blocks).map fun i => UInt64.ofNat (b.first.toNat + i) := by
  have old := b.filterMap_get? fun i member => List.mem_range.1 member
  obtain ⟨genesis, first, blocks⟩ := b
  unfold toList take
  rw [Nat.min_self]
  cases genesis with
  | false =>
      rw [size, if_neg nofun, Nat.zero_add]
      exact old
  | true =>
      have zero : get? ⟨true, first, blocks⟩ 0 = some 0 := by simp [get?, size]
      rw [size, if_pos rfl, Nat.add_comm, List.range_succ_eq_map, List.filterMap_cons_some zero,
        List.filterMap_map]
      exact congrArg (0 :: ·) old

theorem length_toList (b : Backfill) : b.toList.length = b.size := by
  rw [toList_eq, List.length_append, List.length_map, List.length_range, size]
  cases b.genesis <;> rfl

/-- The heights to backfill, as natural numbers: none of them is out of range. -/
theorem toNat_toList (config : ParserConfig) (tip : Height) :
    (ofConfig config tip).toList.map UInt64.toNat = (if config.parseGenesis then [0] else []) ++
      List.range' (max config.startHeight 1).toNat
        (if config.parseOldBlocks then tip.toNat + 1 - (max config.startHeight 1).toNat else 0) := by
  rw [toList_eq, List.map_append, List.map_map, List.range'_eq_map_range]
  congr 1
  · cases h : config.parseGenesis <;> simp [ofConfig, h]
  · refine List.map_congr_left fun i member => ?_
    have inside := List.mem_range.1 member
    have bound := tip.toNat_lt
    have fits : (max config.startHeight 1).toNat + i < UInt64.size := by
      simp only [ofConfig] at inside
      split at inside
      · rw [UInt64.size]; omega
      · cases inside
    exact UInt64.toNat_ofNat_of_lt' fits

theorem alone_sender (b : Backfill) (q : HeightQueue) : b.sender.alone q = b.send {} q := by
  refine (Sender.alone_sendEach b.toList 0 q).trans ?_
  rw [Nat.zero_add, length_toList]
  unfold send
  rcases q.sendAll b.toList with ⟨_ | _, q'⟩ <;> rfl

end Backfill

/-! Following, height by height. -/

namespace Sender

/-- Sends the heights after the last one seen, up to each newer one that is told of. The answer is
whether following goes on, and the height last seen. -/
def observing : List Happening → Height → Sender (Bool × Height)
  | [], last => .done (true, last)
  | .newBlock height :: rest, last =>
    if last < height then
      (sendEach (heightsBetween (last + 1) height) 0).bind fun
        | .ok _ => observing rest height
        | .error _ => .done (false, last)
    else observing rest last
  | .failure _ :: rest, last | .interference _ :: rest, last => observing rest last
  | .silence :: _, last => .done (false, last)

def following : List Subscription → Height → Sender Height
  | [], last => .done last
  | subscription :: rest, last =>
    match subscription.outcome with
    | .error _ => following rest last
    | .ok happenings => (observing happenings last).bind fun
      | (true, last) => following rest last
      | (false, last) => .done last

end Sender

/-- Nobody raises the signal or closes the queue meanwhile. -/
structure Subscription.Calm (s : Subscription) : Prop where
  meanwhile : s.meanwhile = []
  undisturbed : ∀ happenings, s.outcome = .ok happenings → ∀ i, .interference i ∉ happenings

namespace Follower

theorem alone_observing {happenings : List Happening}
    (calm : ∀ i, .interference i ∉ happenings) (f : Follower) :
    (Sender.observing happenings f.lastSeen).alone f.queue =
        (((f.observe happenings).1, (f.observe happenings).2.lastSeen),
          (f.observe happenings).2.queue) ∧
      (f.observe happenings).2.signal = f.signal := by
  induction happenings generalizing f with
  | nil => exact ⟨rfl, rfl⟩
  | cons happening rest ih =>
      have later := ih fun i member => calm i (List.mem_cons_of_mem _ member)
      cases happening with
      | newBlock height =>
          unfold Sender.observing observe
          by_cases newer : f.lastSeen < height
          · have noticed : f.notice (.newBlock height) = f.advance height newer := dif_pos newer
            rw [noticed, if_pos newer, Sender.alone_bind, Sender.alone_sendEach]
            unfold advance
            rcases f.queue.sendAll (heightsBetween (f.lastSeen + 1) height) with ⟨e | _, q⟩
            · exact ⟨rfl, rfl⟩
            · exact later { f with queue := q, lastSeen := height }
          · have noticed : f.notice (.newBlock height) = (true, f) := dif_neg newer
            rw [noticed, if_neg newer]
            exact later f
      | failure fault => exact later (f.notice (.failure fault)).2
      | interference i => exact absurd List.mem_cons_self (calm i)
      | silence => exact ⟨rfl, rfl⟩

/-- Sent one by one, the heights are those that are sent a range at a time. -/
theorem alone_following {script : List Subscription} (calm : ∀ s ∈ script, s.Calm) (f : Follower)
    (unraised : f.signal.raised = false) :
    (Sender.following script f.lastSeen).alone f.queue =
      ((f.follow script).lastSeen, (f.follow script).queue) := by
  induction script generalizing f with
  | nil => rfl
  | cons s rest ih =>
      obtain ⟨meanwhile, undisturbed⟩ := calm s List.mem_cons_self
      have later := ih fun s' member => calm s' (List.mem_cons_of_mem _ member)
      have asked : f.ask s = { f with subscriptions := f.subscriptions + 1 } := by
        rw [ask, meanwhile]
        rfl
      unfold Sender.following follow attend
      rw [unraised, asked]
      cases outcome : s.outcome with
      | error fault =>
          exact later ({ f with subscriptions := f.subscriptions + 1 }.report _) unraised
      | ok happenings =>
          obtain ⟨same, signal⟩ := alone_observing (undisturbed happenings outcome)
            { f with subscriptions := f.subscriptions + 1 }
          have same : (Sender.observing happenings f.lastSeen).alone f.queue = _ := same
          rw [Sender.alone_bind, same]
          simp only [Bool.false_eq_true, if_false]
          generalize observe happenings { f with subscriptions := f.subscriptions + 1 } = answer
            at signal ⊢
          obtain ⟨_ | _, g⟩ := answer
          · rfl
          · exact later g (signal.symm ▸ unraised)

end Follower

/-! The newest height that following gets to hear of. -/

def Happening.height? : Happening → Option Height
  | .newBlock height => some height
  | .failure _ | .interference _ | .silence => none

def toldHeights : List Subscription → List Height
  | [] => []
  | s :: rest =>
    match s.outcome with
    | .error _ => toldHeights rest
    | .ok happenings =>
      (happenings.takeWhile (· ≠ .silence)).filterMap Happening.height? ++
        if .silence ∈ happenings then [] else toldHeights rest

def newestTold (tip : Height) (script : List Subscription) : Height :=
  (toldHeights script).foldl max tip

namespace Sender

theorem value_observing (happenings : List Happening) (last : Height) :
    (observing happenings last).accepted.1 = (decide (.silence ∉ happenings),
      ((happenings.takeWhile (· ≠ .silence)).filterMap Happening.height?).foldl max last) := by
  induction happenings generalizing last with
  | nil => rfl
  | cons happening rest ih =>
      cases happening with
      | newBlock height =>
          unfold observing
          by_cases newer : last < height
          · rw [if_pos newer, accepted_bind, accepted_sendEach]
            refine (ih height).trans ?_
            simp [Happening.height?, max_of_lt newer]
          · rw [if_neg newer, ih]
            simp [Happening.height?, max_of_not_lt newer]
      | failure fault =>
          refine (ih last).trans ?_
          simp [List.filterMap_cons, Happening.height?]
      | interference i =>
          refine (ih last).trans ?_
          simp [List.filterMap_cons, Happening.height?]
      | silence => simp [observing, accepted]

theorem value_following (script : List Subscription) (last : Height) :
    (following script last).accepted.1 = newestTold last script := by
  induction script generalizing last with
  | nil => rfl
  | cons s rest ih =>
      unfold following newestTold toldHeights
      cases s.outcome with
      | error fault => exact ih last
      | ok happenings =>
          rw [accepted_bind, value_observing]
          by_cases silent : .silence ∈ happenings
          · simp [silent, accepted]
          · simp only [silent, not_false_eq_true, decide_true, if_false]
            rw [ih, List.foldl_append]
            rfl

/-- What is sent while the tip is followed, as natural numbers: none of them is out of range. -/
theorem toNat_following {script : List Subscription} (calm : ∀ s ∈ script, s.Calm) (tip : Height) :
    (following script tip).accepted.2.map UInt64.toNat =
      List.range' (tip.toNat + 1) ((newestTold tip script).toNat - tip.toNat) := by
  have sent := Follower.alone_following calm { lastSeen := tip } rfl
  rw [alone_open _ rfl] at sent
  obtain ⟨heights, waiting, range⟩ :=
    (Follower.continues_follow script { lastSeen := tip }).sent
  have queue := congrArg (·.2.waiting) sent
  have last := congrArg Prod.fst sent
  dsimp only at queue last range
  rw [← value_following, last, ← range]
  exact congrArg _ (queue.trans waiting)

end Sender

end ChainIndexer
