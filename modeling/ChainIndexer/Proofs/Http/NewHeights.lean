import ChainIndexer.Http.TipStream
import ChainIndexer.Proofs.Heights
import ChainIndexer.Proofs.Http.Host
import ChainIndexer.Proofs.Steps

/-! The heights of new blocks, as a client learns of them by polling. Each comes once, in order, and
all that are known come before the next poll. A poll that fails comes to an error, which is the
last event. Nothing comes and nothing is asked for after the client has been stopped. -/
namespace ChainIndexer.Http

/-- The highest of a tip and those that the first polls answer. -/
def highest (tip : Height) (polls : Nat → Except Fault Height) : Nat → Height
  | 0 => tip
  | count + 1 =>
    match polls count with
    | .ok height => max (highest tip polls count) height
    | .error _ => highest tip polls count

variable {tip last : Height} {polls : Nat → Except Fault Height} {count : Nat}

theorem highest_le_succ : highest tip polls count ≤ highest tip polls (count + 1) := by
  rw [highest]
  cases polls count with
  | error f => exact UInt64.le_refl _
  | ok height =>
      rw [UInt64.le_iff_toNat_le, toNat_max]
      exact Nat.le_max_left ..

variable (tip polls) in
theorem highest_mono {earlier : Nat} (h : earlier ≤ count) :
    highest tip polls earlier ≤ highest tip polls count := by
  induction h with
  | refl => exact UInt64.le_refl _
  | step _ ih => exact UInt64.le_trans ih highest_le_succ

theorem highest_lt {height : Height} (low : tip < height)
    (lows : ∀ i answer, polls i = .ok answer → answer < height) (count : Nat) :
    highest tip polls count < height := by
  induction count with
  | zero => exact low
  | succ count ih =>
      rw [highest]
      cases answered : polls count with
      | error f => exact ih
      | ok answer =>
          have below := lows count answer answered
          rw [UInt64.lt_iff_toNat_lt] at ih below ⊢
          dsimp only
          rw [toNat_max]
          exact Nat.max_lt.2 ⟨ih, below⟩

/-- Where a stream can have come to: the first polls have been answered, and the heights up to the
last one have come. Each poll was made when all heights known before it had come. -/
structure Reached (tip : Height) (polls : Nat → Except Fault Height) (count : Nat)
    (last : Height) : Prop where
  answered : ∀ i < count, (polls i).isOk = true
  drained : ∀ i < count, highest tip polls i ≤ last
  started : tip ≤ last
  known : last ≤ highest tip polls count

namespace Reached

theorem start : Reached tip polls 0 tip where
  answered _ h := absurd h (Nat.not_lt_zero _)
  drained _ h := absurd h (Nat.not_lt_zero _)
  started := UInt64.le_refl tip
  known := UInt64.le_refl tip

theorem height (reached : Reached tip polls count last) (more : last < highest tip polls count) :
    Reached tip polls count (last + 1) := by
  have next := toNat_succ_of_lt more
  have later : last ≤ last + 1 := by
    rw [UInt64.le_iff_toNat_le, next]
    exact Nat.le_succ _
  refine ⟨reached.answered, fun i h => UInt64.le_trans (reached.drained i h) later,
    UInt64.le_trans reached.started later, ?_⟩
  rw [UInt64.le_iff_toNat_le, next]
  exact UInt64.lt_iff_toNat_lt.1 more

theorem heights_succ (reached : Reached tip polls count last) (low : tip < lastHeight)
    (more : last < highest tip polls count) :
    heightsBetween (tip + 1) (last + 1) = heightsBetween (tip + 1) last ++ [last + 1] := by
  refine heightsBetween_succ ?_ more
  rw [UInt64.le_iff_toNat_le, toNat_succ_of_lt low, toNat_succ_of_lt more]
  exact Nat.succ_le_succ (UInt64.le_iff_toNat_le.1 reached.started)

theorem poll (reached : Reached tip polls count (highest tip polls count))
    (answered : (polls count).isOk = true) :
    Reached tip polls (count + 1) (highest tip polls count) where
  answered i h := by
    rcases Nat.lt_succ_iff_lt_or_eq.1 h with earlier | rfl
    · exact reached.answered i earlier
    · exact answered
  drained i h := highest_mono tip polls (Nat.le_of_lt_succ h)
  started := reached.started
  known := highest_le_succ

end Reached

def turnsTo (tip : Height) (polls : Nat → Except Fault Height) (count : Nat) : Nat :=
  count + ((highest tip polls count).toNat - tip.toNat)

variable (tip polls) in
theorem turnsTo_lt {earlier : Nat} (h : earlier < count) :
    turnsTo tip polls earlier < turnsTo tip polls count := by
  have := UInt64.le_iff_toNat_le.1 (highest_mono tip polls (Nat.le_of_lt h))
  unfold turnsTo
  omega

variable (tip polls) in
theorem turnsTo_le {earlier : Nat} (h : earlier ≤ count) :
    turnsTo tip polls earlier ≤ turnsTo tip polls count := by
  rcases Nat.lt_or_eq_of_le h with h | rfl
  · exact Nat.le_of_lt (turnsTo_lt tip polls h)
  · exact Nat.le_refl _

theorem le_of_failed {i : Nat} {f : Fault} (answered : ∀ i < count, (polls i).isOk = true)
    (failed : polls i = .error f) : count ≤ i := by
  refine Nat.le_of_not_lt fun h => ?_
  have answered := answered i h
  rw [failed] at answered
  cases answered

namespace Reached

variable (reached : Reached tip polls count last)

include reached

theorem le_turnsTo : count + (last.toNat - tip.toNat) ≤ turnsTo tip polls count := by
  have := UInt64.le_iff_toNat_le.1 reached.known
  unfold turnsTo
  omega

theorem turnsTo_lt_turns {i : Nat} (h : i < count) :
    turnsTo tip polls i < count + (last.toNat - tip.toNat) := by
  have := UInt64.le_iff_toNat_le.1 (reached.drained i h)
  unfold turnsTo
  omega

end Reached

/-- What so many turns come to: events, and a number of polls. Every turn is a height or a poll,
until a poll fails. -/
inductive Followed (tip : Height) (polls : Nat → Except Fault Height) :
    Nat → List (Except Fault Height) → Nat → Prop
  | going {count : Nat} {last : Height} (reached : Reached tip polls count last) :
      Followed tip polls (count + (last.toNat - tip.toNat))
        ((heightsBetween (tip + 1) last).map .ok) count
  | failed {turns count : Nat} {f : Fault}
      (reached : Reached tip polls count (highest tip polls count))
      (failed : polls count = .error f) (late : turnsTo tip polls count < turns) :
      Followed tip polls turns
        ((heightsBetween (tip + 1) (highest tip polls count)).map .ok ++ [.error f]) (count + 1)

namespace Followed

variable {turns made : Nat} {events : List (Except Fault Height)}

/-- Where the first polls are answered, there is a turn after which all heights have come that are
known then, and no other poll has been made. -/
theorem of_answered (followed : Followed tip polls (turnsTo tip polls count) events made)
    (answered : ∀ i < count, (polls i).isOk = true) :
    events = (heightsBetween (tip + 1) (highest tip polls count)).map .ok ∧ made = count := by
  -- With more polls or fewer, or after a failure, the number of turns would be another one.
  generalize drained : turnsTo tip polls count = turns at followed
  cases followed with
  | @going made last reached =>
      rcases Nat.lt_trichotomy made count with fewer | rfl | more
      · have := Nat.lt_of_le_of_lt reached.le_turnsTo (turnsTo_lt tip polls fewer)
        omega
      · have started := UInt64.le_iff_toNat_le.1 reached.started
        have known := UInt64.le_iff_toNat_le.1 reached.known
        unfold turnsTo at drained
        have all : last = highest tip polls made := UInt64.toNat_inj.1 (by omega)
        rw [all]
        exact ⟨rfl, rfl⟩
      · have := reached.turnsTo_lt_turns more
        omega
  | @failed _ earlier f reached failed late =>
      have := turnsTo_le tip polls (le_of_failed answered failed)
      omega

theorem of_failed (followed : Followed tip polls turns events made)
    (answered : ∀ i < count, (polls i).isOk = true) {f : Fault} (failed : polls count = .error f)
    (late : turnsTo tip polls count < turns) :
    events = (heightsBetween (tip + 1) (highest tip polls count)).map .ok ++ [.error f] ∧
      made = count + 1 := by
  cases followed with
  | going reached =>
      have := turnsTo_le tip polls (le_of_failed reached.answered failed)
      have := reached.le_turnsTo
      omega
  | @failed _ other g reached failed' _ =>
      obtain rfl : other = count :=
        Nat.le_antisymm (le_of_failed reached.answered failed) (le_of_failed answered failed')
      rw [failed] at failed'
      cases failed'
      exact ⟨rfl, rfl⟩

end Followed

def Host.play {α : Type} (host : Host) (p : Program web α) : StateM (List Request) α :=
  p.run host.handle

theorem Host.play_bind {α β : Type} (host : Host) (p : Program web α) (f : α → Program web β)
    (past : List Request) :
    host.play (p >>= f) past = host.play (f (host.play p past).1) (host.play p past).2 :=
  congrFun (Program.run_bind host.handle p f) past

namespace Remote

def polled (node : Remote) (host : Host) (time : Nat) : Except Fault Height := do
  let request ← node.rpcRequest "/status"
  let response ← host time request
  let reply ← Json.Decoder.decode (Reply.decoder statusDecoder) response.body
  reply.get

/-- The events of a stream in some turns, given before which of them the client has been stopped.
There are no more turns after it has ended. -/
def events (node : Remote) : List Bool → TipStream → Program web (List (Except Fault Height))
  | [], _ => return []
  | stopped :: later, s => do
    match ← { node with stopped }.turn s with
    | (.event e, s) => return e :: (← node.events later s)
    | (.again, s) => node.events later s
    | (.ended, _) => return []

def unstopped (stops : List Bool) : Nat := (stops.takeWhile (!·)).length

theorem unstopped_replicate_append (turns : Nat) (stops : List Bool) :
    unstopped (List.replicate turns false ++ stops) = turns + unstopped stops := by
  unfold unstopped
  rw [List.takeWhile_append_of_pos (by simp), List.length_append, List.length_replicate]

theorem unstopped_append_stopped (stops later : List Bool) :
    unstopped (stops ++ true :: later) = unstopped stops := by
  induction stops with
  | nil => rfl
  | cons stopped stops ih =>
      cases stopped with
      | true => rfl
      | false => exact congrArg Nat.succ ih

variable {node : Remote} {host : Host} {r : Request}

theorem readUrl_eq_ok {path : String} (asked : node.rpcRequest path = .ok r) :
    ∃ url, readUrl (node.rpcAddress ++ path) = .ok url ∧ { url } = r := by
  unfold rpcRequest request at asked
  split at asked
  · cases asked
  · cases address : readUrl (node.rpcAddress ++ path) with
    | error f =>
        rw [address] at asked
        cases asked
    | ok url =>
        rw [address] at asked
        exact ⟨url, rfl, Except.ok.inj asked⟩

/-- A client that has not been stopped asks for the tip where it would ask for the status. -/
theorem run_poll (asked : node.rpcRequest "/status" = .ok r) (past : List Request) :
    host.run node.poll past = (node.polled host past.length, past ++ [r]) := by
  obtain ⟨url, address, rfl⟩ := readUrl_eq_ok asked
  unfold poll polled
  rw [asked, ok_bind, address]
  refine (Host.run_bind (send _) _ past).trans ?_
  rw [Host.run_send]
  cases host past.length { url } with
  | error f => rfl
  | ok response =>
      dsimp only
      rw [ok_bind, Host.run_bind, Host.run_liftExcept]
      cases Json.Decoder.decode (Reply.decoder statusDecoder) response.body with
      | error f => rfl
      | ok reply => exact Host.run_liftExcept _ _

theorem events_over {s : TipStream} {stopped : Bool} (ends : (s.failed || stopped) = true)
    (later : List Bool) : node.events (stopped :: later) s = pure [] := by
  have turned : ({ node with stopped } : Remote).turn s = pure (.ended, s) := by
    rw [turn, TipStream.draw, if_pos ends]
  rw [events, turned]
  rfl

theorem events_failed {s : TipStream} (failed : s.failed = true) (stops : List Bool) :
    node.events stops s = pure [] := by
  cases stops with
  | nil => rfl
  | cons stopped later => exact events_over (by rw [failed, Bool.true_or]) later

/-- Nothing comes after the client has been stopped, and nothing is asked for. -/
theorem events_eq (node : Remote) (stops : List Bool) (s : TipStream) :
    node.events stops s = node.events (List.replicate (unstopped stops) false) s := by
  induction stops generalizing s with
  | nil => rfl
  | cons stopped stops ih =>
      cases stopped with
      | true => exact events_over (Bool.or_true _) stops
      | false =>
          refine congrArg (({ node with stopped := false } : Remote).turn s >>= ·)
            (funext fun (turn, s) => ?_)
          cases turn with
          | event e => exact congrArg (· >>= fun events => pure (e :: events)) (ih s)
          | again => exact ih s
          | ended => rfl

def streamAt (tip : Height) (polls : Nat → Except Fault Height) (count : Nat) (last : Height) :
    TipStream where
  next := last + 1
  tip := highest tip polls count

theorem draw_height (more : last < highest tip polls count) :
    (streamAt tip polls count last).draw false =
      (.height (last + 1), streamAt tip polls count (last + 1)) := by
  refine (if_neg Bool.false_ne_true).trans (if_pos ?_)
  change last + 1 ≤ highest tip polls count
  rw [UInt64.le_iff_toNat_le, toNat_succ_of_lt more]
  exact UInt64.lt_iff_toNat_lt.1 more

theorem draw_needsTip (low : last < lastHeight) (drained : last = highest tip polls count) :
    (streamAt tip polls count last).draw false = (.needsTip, streamAt tip polls count last) := by
  refine (if_neg Bool.false_ne_true).trans (if_neg ?_)
  change ¬ last + 1 ≤ highest tip polls count
  rw [← drained, UInt64.le_iff_toNat_le, toNat_succ_of_lt low]
  exact Nat.not_succ_le_self _

/-- While there are heights that are known, they come one by one, and nothing is asked for. -/
theorem play_events_height (more : last < highest tip polls count) (later : List Bool)
    (past : List Request) :
    host.play (node.events (false :: later) (streamAt tip polls count last)) past =
      let rest := host.play (node.events later (streamAt tip polls count (last + 1))) past
      (.ok (last + 1) :: rest.1, rest.2) := by
  have turned : ({ node with stopped := false } : Remote).turn (streamAt tip polls count last) =
      pure (.event (.ok (last + 1)), streamAt tip polls count (last + 1)) := by
    rw [turn, draw_height more]
  rw [events, turned]
  exact Host.play_bind host (node.events later _) _ past

theorem learn_poll (tip last : Height) (polls : Nat → Except Fault Height) (count : Nat) :
    (streamAt tip polls count last).learn (polls count) =
      match polls count with
      | .ok _ => (none, streamAt tip polls (count + 1) last)
      | .error f => (some f, { streamAt tip polls count last with failed := true }) := by
  cases answered : polls count with
  | ok height => simp only [streamAt, TipStream.learn, highest, answered]
  | error f => rfl

theorem play_events_poll (asked : node.rpcRequest "/status" = .ok r) (low : last < lastHeight)
    (drained : last = highest tip polls count) (later : List Bool) (past : List Request)
    (poll : node.polled host past.length = polls count) :
    host.play (node.events (false :: later) (streamAt tip polls count last)) past =
      match polls count with
      | .ok _ =>
        host.play (node.events later (streamAt tip polls (count + 1) last)) (past ++ [r])
      | .error f => ([.error f], past ++ [r]) := by
  have turned : host.play
      (({ node with stopped := false } : Remote).turn (streamAt tip polls count last)) past =
        (match polls count with
          | .ok _ => (.again, streamAt tip polls (count + 1) last)
          | .error f => (.event (.error f), { streamAt tip polls count last with failed := true }),
        past ++ [r]) := by
    have answered : host.play node.poll.run past = (polls count, past ++ [r]) := by
      rw [← poll]
      exact run_poll asked past
    rw [turn, draw_needsTip low drained]
    refine (Host.play_bind host node.poll.run _ past).trans ?_
    rw [answered]
    dsimp only
    rw [learn_poll]
    cases polls count <;> rfl
  rw [events, Host.play_bind, turned]
  cases polls count with
  | ok height => rfl
  | error f =>
      dsimp only
      rw [events_failed rfl]
      rfl

/-- Turns without a stop, from where a stream can have come to. They go on with its course. -/
theorem followed_play_events (asked : node.rpcRequest "/status" = .ok r) {start : Nat}
    (polling : ∀ i, node.polled host (start + i) = polls i) (low : tip < lastHeight)
    (lows : ∀ i height, polls i = .ok height → height < lastHeight) (turns : Nat)
    (reached : Reached tip polls count last) (past : List Request)
    (time : past.length = start + count) :
    ∃ later made,
      host.play (node.events (List.replicate turns false) (streamAt tip polls count last)) past =
        (later, past ++ List.replicate made r) ∧
      Followed tip polls (count + (last.toNat - tip.toNat) + turns)
        ((heightsBetween (tip + 1) last).map .ok ++ later) (count + made) := by
  -- On the turns, from any place. What came before this place stands in front of what comes later.
  induction turns generalizing count last past with
  | zero =>
      refine ⟨[], 0, congrArg _ (List.append_nil past).symm, ?_⟩
      rw [List.append_nil]
      exact .going reached
  | succ turns ih =>
      have started := UInt64.le_iff_toNat_le.1 reached.started
      rw [List.replicate_succ]
      by_cases more : last < highest tip polls count
      · obtain ⟨later, made, played, followed⟩ := ih (reached.height more) past time
        refine ⟨_, made, (play_events_height more _ past).trans (by rw [played]), ?_⟩
        have taken : count + ((last + 1).toNat - tip.toNat) + turns =
            count + (last.toNat - tip.toNat) + (turns + 1) := by
          rw [toNat_succ_of_lt more]
          omega
        rwa [reached.heights_succ low more, List.map_append, List.append_assoc, taken]
          at followed
      · -- All that are known have come, so this turn is a poll.
        have drained : last = highest tip polls count :=
          UInt64.le_antisymm reached.known (UInt64.not_lt.1 more)
        have played := play_events_poll asked (drained ▸ highest_lt low lows count) drained
          (List.replicate turns false) past (time ▸ polling count)
        cases answered : polls count with
        | error f =>
            rw [answered] at played
            refine ⟨_, 1, played, ?_⟩
            subst drained
            exact .failed reached answered (by unfold turnsTo; omega)
        | ok height =>
            rw [answered] at played
            have reached' : Reached tip polls (count + 1) last := by
              subst drained
              exact reached.poll (congrArg Except.isOk answered)
            obtain ⟨later, made, rest, followed⟩ := ih reached' (past ++ [r])
              (by rw [List.length_append, time]; rfl)
            refine ⟨later, made + 1, ?_, ?_⟩
            · rw [played]
              dsimp only
              rw [rest, List.append_assoc, List.replicate_succ]
              rfl
            · have taken : count + 1 + (last.toNat - tip.toNat) + turns =
                  count + (last.toNat - tip.toNat) + (turns + 1) := by omega
              have polled : count + 1 + made = count + (made + 1) := by omega
              rwa [taken, polled] at followed

theorem followed_events (asked : node.rpcRequest "/status" = .ok r) {past : List Request}
    (polling : ∀ i, node.polled host (past.length + i) = polls i) (low : tip < lastHeight)
    (lows : ∀ i height, polls i = .ok height → height < lastHeight) (stops : List Bool) :
    ∃ events made,
      host.play (node.events stops (.after tip)) past = (events, past ++ List.replicate made r) ∧
      Followed tip polls (unstopped stops) events made := by
  obtain ⟨events, made, played, followed⟩ :=
    followed_play_events asked polling low lows (unstopped stops) .start past rfl
  rw [heightsBetween_after_self low, Nat.sub_self, Nat.zero_add, Nat.zero_add] at followed
  refine ⟨events, made, ?_, followed⟩
  rw [events_eq]
  exact played

/-- Heights of new blocks come once each, in order and with no gap, from the one after the tip at
the time of subscribing. A poll is made only when all heights known before it have come, and no
height comes that is not known. Where the first polls are answered, all heights that are known then
come before the next poll; if that one fails, its error comes next, and nothing after it. Once the
client is stopped, nothing more comes, and nothing is asked for. -/
theorem new_heights_come_once (node : Remote) (host : Host) (past : List Request) (tip : Height)
    (subscribed : node.replied host past.length "/status" statusDecoder = .ok tip)
    (low : tip < lastHeight)
    (lows : ∀ i height,
      node.polled host (past.length + 1 + i) = .ok height → height < lastHeight) :
    let polls i := node.polled host (past.length + 1 + i)
    ∃ r, node.rpcRequest "/status" = .ok r ∧
      host.run node.subscribe past = (.ok (.after tip), past ++ [r]) ∧
      let seen stops := host.play (node.events stops (.after tip)) (past ++ [r])
      (∀ stops, ∃ made, Followed tip polls (unstopped stops) (seen stops).1 made ∧
        (seen stops).2 = past ++ [r] ++ List.replicate made r) ∧
      (∀ count, (∀ i < count, (polls i).isOk = true) →
        let drained := List.replicate (turnsTo tip polls count) false
        let heights := (heightsBetween (tip + 1) (highest tip polls count)).map Except.ok
        seen drained = (heights, past ++ [r] ++ List.replicate count r) ∧
        ∀ f later, polls count = .error f →
          seen (drained ++ false :: later) =
            (heights ++ [.error f], past ++ [r] ++ List.replicate (count + 1) r)) ∧
      ∀ stops later, seen (stops ++ true :: later) = seen stops := by
  intro polls
  obtain ⟨r, asked⟩ := exists_rpcRequest (congrArg Except.isOk subscribed)
  refine ⟨r, asked, ?_, ?_⟩
  · unfold subscribe latestHeight
    rw [Host.run_bind, Host.run_rpc, subscribed, asked]
    rfl
  intro seen
  have course : ∀ stops, ∃ events made, seen stops = (events, past ++ [r] ++ .replicate made r) ∧
      Followed tip polls (unstopped stops) events made :=
    followed_events asked (fun i => congrArg (node.polled host <| · + i) List.length_append) low
      lows
  refine ⟨?_, ?_, ?_⟩
  · intro stops
    obtain ⟨events, made, came, followed⟩ := course stops
    rw [came]
    exact ⟨made, followed, rfl⟩
  · intro count answered drained heights
    refine ⟨?_, ?_⟩
    · obtain ⟨events, made, came, followed⟩ := course drained
      have turns : unstopped drained = turnsTo tip polls count := by
        rw [← List.append_nil drained]
        exact unstopped_replicate_append _ []
      rw [turns] at followed
      obtain ⟨rfl, rfl⟩ := followed.of_answered answered
      exact came
    · intro f later failed
      obtain ⟨events, made, came, followed⟩ := course (drained ++ false :: later)
      have turns : turnsTo tip polls count < unstopped (drained ++ false :: later) := by
        rw [unstopped_replicate_append]
        exact Nat.lt_add_of_pos_right (Nat.succ_pos _)
      obtain ⟨rfl, rfl⟩ := followed.of_failed answered failed turns
      exact came
  · intro stops later
    change host.play (node.events _ _) _ = host.play (node.events _ _) _
    rw [events_eq, unstopped_append_stopped, ← events_eq]

end Remote

def tipText (height : String) : String :=
  "\x7b\"result\":\x7b\"sync_info\":\x7b\"latest_block_height\":" ++ height ++ "\x7d\x7d\x7d"

/-- A host whose tip is 5, then 7, then 6 again, and which is gone after that. -/
def Host.climbing : Host
  | 0, _ => .ok ⟨200, Utf8.encode (tipText "5")⟩
  | 1, _ => .ok ⟨200, Utf8.encode (tipText "7")⟩
  | 2, _ => .ok ⟨200, Utf8.encode (tipText "6")⟩
  | _, _ => .error (.because .nodeFault "timed out")

namespace Remote

theorem polled_climbing : near.polled .climbing 1 = .ok 7 ∧ near.polled .climbing 2 = .ok 6 ∧
    ∀ time, near.polled .climbing (time + 3) = .error (.because .nodeFault "timed out") := by
  refine ⟨eq_ok_of_toOption (by decide +kernel), eq_ok_of_toOption (by decide +kernel), ?_⟩
  intro time
  obtain ⟨r, asked⟩ : ∃ r, near.rpcRequest "/status" = .ok r := exists_eq_ok (by decide +kernel)
  rw [polled, asked]
  rfl

/-- Two heights come, the fall of the tip goes unnoticed, and the failure comes last. -/
theorem new_heights_come_once_climbing :
    near.replied .climbing 0 "/status" statusDecoder = .ok 5 ∧
      (∀ i height, near.polled .climbing (0 + 1 + i) = .ok height → height < lastHeight) ∧
      ∃ r f, Host.climbing.play (near.events (List.replicate 5 false) (.after 5)) [r] =
        ([.ok 6, .ok 7, .error f], [r, r, r, r]) := by
  have subscribed : near.replied .climbing 0 "/status" statusDecoder = .ok 5 :=
    eq_ok_of_toOption (by decide +kernel)
  obtain ⟨first, second, others⟩ := polled_climbing
  have lows : ∀ i height,
      near.polled .climbing (0 + 1 + i) = .ok height → height < lastHeight := by
    intro i height answered
    match i with
    | 0 =>
        rw [first] at answered
        cases answered
        decide
    | 1 =>
        rw [second] at answered
        cases answered
        decide
    | i + 2 =>
        rw [Nat.zero_add, Nat.add_comm 1, others] at answered
        cases answered
  obtain ⟨r, _, _, _, course, _⟩ :=
    new_heights_come_once near .climbing [] 5 subscribed (by decide) lows
  obtain ⟨_, failing⟩ := course 2 (by
    intro i h
    match i with
    | 0 => exact congrArg Except.isOk first
    | 1 => exact congrArg Except.isOk second)
  have known : highest 5 (fun i => near.polled .climbing (0 + 1 + i)) 2 = 7 := by decide +kernel
  have ended := failing _ [] (others 0)
  unfold turnsTo at ended
  rw [List.length_nil, known] at ended
  exact ⟨subscribed, lows, r, _, ended⟩

end Remote
end ChainIndexer.Http
