import ChainIndexer.Height.Live
import ChainIndexer.Proofs.Heights

/-! Following leaves no gap. Whatever subscriptions tell of, in whatever order, and whenever others
raise the signal or close the queue, the heights sent are the ones after the last one seen, each
once and in ascending order. -/
namespace ChainIndexer

namespace Follower

/-- A new block that a subscription tells of, and the follower as it is told. -/
structure Notification where
  follower : Follower
  height : Height

/-- The height is new, but the queue does not take it. -/
def Notification.refused (n : Notification) : Bool :=
  n.follower.queue.closed && n.follower.lastSeen < n.height

def heard (f : Follower) : Happening → List Notification
  | .newBlock height => [⟨f, height⟩]
  | .failure _ | .interference _ | .silence => []

/-- The new blocks heard of up to the end of a subscription, or of following. -/
def heardIn : List Happening → Follower → List Notification
  | [], _ => []
  | happening :: rest, f =>
    f.heard happening ++
      match f.notice happening with
      | (true, f) => heardIn rest f
      | (false, _) => []

def heardFrom (f : Follower) (subscription : Subscription) : List Notification :=
  if f.signal.raised then []
  else
    match subscription.outcome with
    | .error _ => []
    | .ok happenings => (f.ask subscription).heardIn happenings

def heardInAll : List Subscription → Follower → List Notification
  | [], _ => []
  | subscription :: rest, f =>
    f.heardFrom subscription ++
      match f.attend subscription with
      | (true, f) => heardInAll rest f
      | (false, _) => []

/-- The greatest of a height and of those that were told of and not refused. -/
def greatest (last : Nat) (told : List Notification) : Nat :=
  (told.filter (!·.refused)).foldl (fun m n => max m n.height.toNat) last

theorem le_greatest (last : Nat) (told : List Notification) : last ≤ greatest last told := by
  unfold greatest
  induction told.filter (!·.refused) generalizing last with
  | nil => exact Nat.le_refl _
  | cons n told ih => exact Nat.le_trans (Nat.le_max_left _ _) (ih _)

theorem greatest_append (last : Nat) (told more : List Notification) :
    greatest last (told ++ more) = greatest (greatest last told) more := by
  rw [greatest, List.filter_append, List.foldl_append]
  rfl

/-- After these notifications the follower has come from one state to the other, and everything
between the heights last seen was sent. -/
structure Continues (f : Follower) (told : List Notification) (g : Follower) : Prop where
  last : g.lastSeen.toNat = greatest f.lastSeen.toNat told
  sent : ∃ heights, g.queue.waiting = f.queue.waiting ++ heights ∧
    heights.map UInt64.toNat =
      List.range' (f.lastSeen.toNat + 1) (g.lastSeen.toNat - f.lastSeen.toNat)

namespace Continues

variable {f g k : Follower} {told more : List Notification}

theorem of_same (last : g.lastSeen = f.lastSeen) (queue : g.queue.waiting = f.queue.waiting) :
    f.Continues [] g := by
  refine ⟨congrArg UInt64.toNat last, [], ?_, ?_⟩
  · rw [queue, List.append_nil]
  · rw [last, Nat.sub_self]
    rfl

theorem trans (first : f.Continues told g) (later : g.Continues more k) :
    f.Continues (told ++ more) k := by
  obtain ⟨last, heights, sent, range⟩ := first
  obtain ⟨last', heights', sent', range'⟩ := later
  have grown : f.lastSeen.toNat ≤ g.lastSeen.toNat := last ▸ le_greatest _ _
  have grown' : g.lastSeen.toNat ≤ k.lastSeen.toNat := last' ▸ le_greatest _ _
  refine ⟨?_, heights ++ heights', ?_, ?_⟩
  · rw [greatest_append, ← last, last']
  · rw [sent', sent, List.append_assoc]
  · have start : g.lastSeen.toNat + 1 =
        f.lastSeen.toNat + 1 + (g.lastSeen.toNat - f.lastSeen.toNat) := by omega
    rw [List.map_append, range, range', start, List.range'_append_1]
    congr 1
    omega

end Continues

theorem continues_suffer (f : Follower) (i : Interference) : f.Continues [] (f.suffer i) := by
  cases i <;> exact .of_same rfl rfl

theorem continues_ask (f : Follower) (subscription : Subscription) :
    f.Continues [] (f.ask subscription) := by
  have started : f.Continues [] { f with subscriptions := f.subscriptions + 1 } := .of_same rfl rfl
  unfold ask
  generalize { f with subscriptions := f.subscriptions + 1 } = g at started ⊢
  induction subscription.meanwhile generalizing g with
  | nil => exact started
  | cons i rest ih => exact ih _ (started.trans (g.continues_suffer i))

theorem continues_advance (f : Follower) (height : Height) (newer : f.lastSeen < height) :
    f.Continues [⟨f, height⟩] (f.advance height newer).2 := by
  have below := UInt64.lt_iff_toNat_lt.1 newer
  have heights := toNat_heightsBetween (f.lastSeen + 1) height
  rw [toNat_succ_of_lt newer] at heights
  have nonempty : (heightsBetween (f.lastSeen + 1) height).isEmpty = false := by
    rw [← List.isEmpty_map, heights, List.isEmpty_eq_false_iff, ne_eq, List.range'_eq_nil_iff]
    omega
  unfold advance HeightQueue.sendAll
  rw [nonempty]
  cases closed : f.queue.closed with
  | true =>
      -- Told of in vain: neither the queue nor the height last seen changes.
      have refused : greatest f.lastSeen.toNat [⟨f, height⟩] = f.lastSeen.toNat := by
        simp [greatest, Notification.refused, closed, newer]
      exact ⟨refused.symm, [], (List.append_nil _).symm, by simp [report]⟩
  | false =>
      have taken : greatest f.lastSeen.toNat [⟨f, height⟩] = height.toNat := by
        simp [greatest, Notification.refused, closed, Nat.max_eq_right (Nat.le_of_lt below)]
      exact ⟨taken.symm, _, rfl, heights.trans (by congr 1; dsimp; omega)⟩

theorem continues_notice (f : Follower) (happening : Happening) :
    f.Continues (f.heard happening) (f.notice happening).2 := by
  cases happening with
  | newBlock height =>
      by_cases newer : f.lastSeen < height
      · rw [notice, dif_pos newer]
        exact f.continues_advance height newer
      · have below := UInt64.le_iff_toNat_le.1 (UInt64.not_lt.1 newer)
        have same : greatest f.lastSeen.toNat [⟨f, height⟩] = f.lastSeen.toNat := by
          simp [greatest, Notification.refused, newer, Nat.max_eq_left below]
        rw [notice, dif_neg newer]
        exact ⟨same.symm, [], (List.append_nil _).symm, by simp⟩
  | failure fault => exact .of_same rfl rfl
  | interference i => exact f.continues_suffer i
  | silence => exact .of_same rfl rfl

theorem continues_observe (happenings : List Happening) (f : Follower) :
    f.Continues (f.heardIn happenings) (f.observe happenings).2 := by
  induction happenings generalizing f with
  | nil => exact .of_same rfl rfl
  | cons happening rest ih =>
      have first := f.continues_notice happening
      unfold heardIn observe
      generalize f.notice happening = answer at first ⊢
      obtain ⟨_ | _, g⟩ := answer
      · exact first.trans (.of_same rfl rfl)
      · exact first.trans (ih g)

theorem continues_attend (f : Follower) (subscription : Subscription) :
    f.Continues (f.heardFrom subscription) (f.attend subscription).2 := by
  have asked := f.continues_ask subscription
  unfold heardFrom attend
  split
  · exact .of_same rfl rfl
  · cases subscription.outcome with
    | error fault => exact asked.trans (.of_same rfl rfl)
    | ok happenings => exact asked.trans (continues_observe happenings _)

theorem continues_follow (script : List Subscription) (f : Follower) :
    f.Continues (f.heardInAll script) (f.follow script) := by
  induction script generalizing f with
  | nil => exact .of_same rfl rfl
  | cons subscription rest ih =>
      have first := f.continues_attend subscription
      unfold heardInAll follow
      generalize f.attend subscription = answer at first ⊢
      obtain ⟨_ | _, g⟩ := answer
      · exact first.trans (.of_same rfl rfl)
      · exact first.trans (ih g)

/-- What is sent is, in this order, every height after the one last seen up to the greatest one
heard of, but for one that the queue refused. The height after the last one seen is in range
whenever it is asked for. -/
theorem follow_leaves_no_gap (f : Follower) (script : List Subscription) :
    (∃ sent, (f.follow script).queue.waiting = f.queue.waiting ++ sent ∧
      sent.map UInt64.toNat = List.range' (f.lastSeen.toNat + 1)
        (greatest f.lastSeen.toNat (f.heardInAll script) - f.lastSeen.toNat)) ∧
    ∀ n ∈ f.heardInAll script, n.follower.lastSeen < n.height →
      (n.follower.lastSeen + 1).toNat = n.follower.lastSeen.toNat + 1 := by
  obtain ⟨last, sent⟩ := f.continues_follow script
  rw [last] at sent
  exact ⟨sent, fun _ _ newer => toNat_succ_of_lt newer⟩

/-- A jump, a block that is known already, a subscription that is refused, and one more jump. -/
example : (follow [⟨[], .ok [.newBlock 5, .newBlock 4]⟩, ⟨[], .error { kind := .nodeFault }⟩,
      ⟨[.signalRaised], .ok [.newBlock 7, .silence, .newBlock 9]⟩]
      { lastSeen := 3 }).queue.waiting = [4, 5, 6, 7] := by decide

end Follower
end ChainIndexer
