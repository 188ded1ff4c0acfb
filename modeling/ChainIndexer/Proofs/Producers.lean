import ChainIndexer.Proofs.Sending

/-! The two producers of heights at work on one queue. Backfill sends the heights up to the tip of
the chain and following sends those after it, and their sends may be interleaved in any way. However
they are, the two meet exactly: together they send every height that is wanted, and none twice. -/
namespace ChainIndexer

inductive Side where
  | backfill
  | live
  deriving DecidableEq

/-- Backfill and following, with the queue that they share. -/
structure Producers where
  queue : HeightQueue
  backfill : Sender (Except QueueError Nat)
  live : Sender Height
  /-- The heights that the queue has taken, and whose they were. -/
  sent : List (Side × Height) := []

namespace Sender

variable {α : Type}

/-- The next send, if there is one left, with the height if the queue takes it. -/
def step (p : Sender α) (q : HeightQueue) : List Height × Sender α × HeightQueue :=
  match p with
  | .done value => ([], .done value, q)
  | .call height next =>
    let (answer, q) := q.send height
    (if answer.isOk then [height] else [], next answer, q)

theorem step_open (p : Sender α) {q : HeightQueue} (opened : q.closed = false) :
    (p.step q).2.2 = { q with waiting := q.waiting ++ (p.step q).1 } ∧
      p.accepted = ((p.step q).2.1.accepted.1, (p.step q).1 ++ (p.step q).2.1.accepted.2) := by
  cases p with
  | done value => exact ⟨by rw [step, List.append_nil], rfl⟩
  | call height next =>
      rw [step, HeightQueue.send_open opened]
      exact ⟨rfl, rfl⟩

end Sender

namespace Producers

/-- As they are started: each only if the configuration asks for it. -/
def start (config : ParserConfig) (tip : Height) (script : List Subscription)
    (queue : HeightQueue) : Producers where
  queue
  backfill :=
    if config.parseGenesis || config.parseOldBlocks then (Backfill.ofConfig config tip).sender
    else .done (.ok 0)
  live := if config.listenNewBlocks then Sender.following script tip else .done tip

def turn (ps : Producers) : Side → Producers
  | .backfill =>
    let (sent, backfill, queue) := ps.backfill.step ps.queue
    { ps with queue, backfill, sent := ps.sent ++ sent.map (.backfill, ·) }
  | .live =>
    let (sent, live, queue) := ps.live.step ps.queue
    { ps with queue, live, sent := ps.sent ++ sent.map (.live, ·) }

def play (ps : Producers) (turns : List Side) : Producers := turns.foldl turn ps

def ended (ps : Producers) : Bool := ps.backfill.ended && ps.live.ended

def heights (ps : Producers) : List Height := ps.sent.map Prod.snd

def sentBy (side : Side) (ps : Producers) : List Height :=
  (ps.sent.filter (·.1 = side)).map Prod.snd

theorem heights_perm (ps : Producers) :
    ps.heights.Perm (ps.sentBy .backfill ++ ps.sentBy .live) := by
  have other : ps.sent.filter (·.1 = .live) = ps.sent.filter fun send => !send.1 = .backfill := by
    refine List.filter_congr fun send _ => ?_
    cases send.1 <;> rfl
  rw [heights, sentBy, sentBy, other, ← List.map_append]
  exact (List.filter_append_perm _ _).symm.map _

section

variable {ps qs : Producers} {side other : Side} {sent : List Height}

theorem heights_append (more : qs.sent = ps.sent ++ sent.map (side, ·)) :
    qs.heights = ps.heights ++ sent := by
  rw [heights, more, List.map_append, List.map_map]
  exact congrArg _ (List.map_id _)

theorem sentBy_append (more : qs.sent = ps.sent ++ sent.map (side, ·)) :
    qs.sentBy side = ps.sentBy side ++ sent := by
  simp [sentBy, more, List.filter_map, Function.comp_def]

theorem sentBy_append_of_ne (more : qs.sent = ps.sent ++ sent.map (side, ·))
    (ne : side ≠ other) : qs.sentBy other = ps.sentBy other := by
  simp [sentBy, more, List.filter_map, Function.comp_def, ne]

end

/-- From a start, each side has sent the first of what it sends in all, and the queue has taken
it. -/
structure Since (ps qs : Producers) : Prop where
  queue : qs.queue = { ps.queue with waiting := ps.queue.waiting ++ qs.heights }
  backfill : ps.backfill.accepted =
    (qs.backfill.accepted.1, qs.sentBy .backfill ++ qs.backfill.accepted.2)
  live : ps.live.accepted = (qs.live.accepted.1, qs.sentBy .live ++ qs.live.accepted.2)

namespace Since

variable {ps qs : Producers}

theorem refl (unsent : ps.sent = []) : ps.Since ps := by
  refine ⟨?_, ?_, ?_⟩
  · simp [heights, unsent]
  · simp [sentBy, unsent]
  · simp [sentBy, unsent]

theorem turn (opened : ps.queue.closed = false) (since : ps.Since qs) (side : Side) :
    ps.Since (qs.turn side) := by
  obtain ⟨queue, backfill, live⟩ := since
  have still : qs.queue.closed = false := by rw [queue]; exact opened
  cases side with
  | backfill =>
      obtain ⟨taken, next⟩ := qs.backfill.step_open still
      have taken : (qs.turn .backfill).queue = _ := taken
      have more : (qs.turn .backfill).sent =
        qs.sent ++ (qs.backfill.step qs.queue).1.map (.backfill, ·) := rfl
      refine ⟨?_, ?_, ?_⟩
      · rw [taken, heights_append more]
        generalize (qs.backfill.step qs.queue).1 = sent
        rw [queue, List.append_assoc]
      · rw [sentBy_append more, backfill, next, List.append_assoc]
        rfl
      · rw [sentBy_append_of_ne more (nofun : Side.backfill ≠ .live)]
        exact live
  | live =>
      obtain ⟨taken, next⟩ := qs.live.step_open still
      have taken : (qs.turn .live).queue = _ := taken
      have more : (qs.turn .live).sent =
        qs.sent ++ (qs.live.step qs.queue).1.map (.live, ·) := rfl
      refine ⟨?_, ?_, ?_⟩
      · rw [taken, heights_append more]
        generalize (qs.live.step qs.queue).1 = sent
        rw [queue, List.append_assoc]
      · rw [sentBy_append_of_ne more (nofun : Side.live ≠ .backfill)]
        exact backfill
      · rw [sentBy_append more, live, next, List.append_assoc]
        rfl

theorem play (opened : ps.queue.closed = false) (since : ps.Since qs) (turns : List Side) :
    ps.Since (qs.play turns) := by
  induction turns generalizing qs with
  | nil => exact since
  | cons side rest ih => exact ih (since.turn opened side)

theorem of_ended (since : ps.Since qs) (ended : qs.ended = true) :
    qs.backfill = .done ps.backfill.accepted.1 ∧ qs.sentBy .backfill = ps.backfill.accepted.2 ∧
      qs.live = .done ps.live.accepted.1 ∧ qs.sentBy .live = ps.live.accepted.2 := by
  obtain ⟨ended, ended'⟩ := Bool.and_eq_true_iff.1 ended
  obtain ⟨done, rest⟩ := Sender.eq_done_of_ended ended
  obtain ⟨done', rest'⟩ := Sender.eq_done_of_ended ended'
  rw [since.backfill, since.live, rest, rest', List.append_nil, List.append_nil]
  exact ⟨done, rfl, done', rfl⟩

end Since

theorem play_append (ps : Producers) (turns more : List Side) :
    ps.play (turns ++ more) = (ps.play turns).play more := List.foldl_append

theorem exists_backfilled (ps : Producers) : ∃ turns, (ps.play turns).backfill.ended = true ∧
    (ps.play turns).queue = (ps.backfill.alone ps.queue).2 ∧ (ps.play turns).live = ps.live := by
  obtain ⟨q, backfill, live, sent⟩ := ps
  induction backfill generalizing q sent with
  | done value => exact ⟨[], rfl, rfl, rfl⟩
  | call height next ih =>
      obtain ⟨turns, rest⟩ := ih (q.send height).1 (q.send height).2 _
      exact ⟨.backfill :: turns, rest⟩

theorem exists_followed (ps : Producers) : ∃ turns, (ps.play turns).live.ended = true ∧
    (ps.play turns).queue = (ps.live.alone ps.queue).2 ∧
      (ps.play turns).backfill = ps.backfill := by
  obtain ⟨q, backfill, live, sent⟩ := ps
  induction live generalizing q sent with
  | done value => exact ⟨[], rfl, rfl, rfl⟩
  | call height next ih =>
      obtain ⟨turns, rest⟩ := ih (q.send height).1 (q.send height).2 _
      exact ⟨.live :: turns, rest⟩

variable (config : ParserConfig) (tip : Height) {script : List Subscription} (q : HeightQueue)

/-- Without a flag there is nothing to backfill, whether backfill is started or not. -/
theorem accepted_backfill (script : List Subscription) :
    (start config tip script q).backfill.accepted =
      (.ok (Backfill.ofConfig config tip).toList.length, (Backfill.ofConfig config tip).toList) := by
  unfold start
  split
  · rw [Backfill.sender, Sender.accepted_sendEach, Nat.zero_add]
  · rename_i unwanted
    have none : (Backfill.ofConfig config tip).toList.map UInt64.toNat = [] := by
      rw [Backfill.toNat_toList]
      simp_all
    rw [List.map_eq_nil_iff.1 none]
    rfl

theorem toNat_live (calm : ∀ s ∈ script, s.Calm) :
    (start config tip script q).live.accepted.2.map UInt64.toNat =
      List.range' (tip.toNat + 1)
        (if config.listenNewBlocks then (newestTold tip script).toNat - tip.toNat else 0) := by
  unfold start
  dsimp only
  split
  · exact Sender.toNat_following calm tip
  · rfl

theorem mem_if_singleton {wanted : Bool} {n k : Nat} :
    n ∈ (if wanted then [k] else []) ↔ wanted = true ∧ n = k := by
  cases wanted <;> simp

theorem mem_range'_if {wanted : Bool} {n first size : Nat} :
    n ∈ List.range' first (if wanted then size else 0) ↔
      wanted = true ∧ first ≤ n ∧ n < first + size := by
  cases wanted <;> simp [List.mem_range'_1]

theorem mem_iff_toNat_mem {h : Height} {heights : List Height} :
    h ∈ heights ↔ h.toNat ∈ heights.map UInt64.toNat := by
  simp [UInt64.toNat_inj]

/-- The three parts follow one another: height zero, the old blocks from one on, the new ones. -/
theorem ascending (size : Nat) : ((if config.parseGenesis then [0] else []) ++
    List.range' (max config.startHeight 1).toNat
      (if config.parseOldBlocks then tip.toNat + 1 - (max config.startHeight 1).toNat else 0) ++
    List.range' (tip.toNat + 1) size).Pairwise (· < ·) := by
  have first : 1 ≤ (max config.startHeight 1).toNat := by
    rw [toNat_max]
    exact Nat.le_max_right _ _
  refine List.pairwise_append.2 ⟨List.pairwise_append.2 ⟨?_, List.pairwise_lt_range', ?_⟩,
    List.pairwise_lt_range', ?_⟩
  · cases config.parseGenesis <;> simp
  · intro genesis member old member'
    have := mem_if_singleton.1 member
    have := mem_range'_if.1 member'
    omega
  · intro h member new member'
    have := List.mem_range'_1.1 member'
    rcases List.mem_append.1 member with member | member
    · have := mem_if_singleton.1 member
      omega
    · have := mem_range'_if.1 member
      omega

/-- Close to the greatest height there is. The subscription that is refused is taken out again. -/
def atTheTop : Producers :=
  start { parseGenesis := true, parseOldBlocks := true, startHeight := 18446744073709551612 }
    18446744073709551613
    [⟨[], .error { kind := .nodeFault }⟩, ⟨[], .ok [.newBlock 18446744073709551615]⟩] {}

end Producers

namespace Service

variable (config : ParserConfig) (tip : Height) {script : List Subscription} (p : Pool)

theorem backfill_alone (script : List Subscription) (unraised : p.signal.raised = false) :
    (backfill config tip p).2.queue =
        ((Producers.start config tip script p.queue).backfill.alone p.queue).2 ∧
      (backfill config tip p).2.signal = p.signal := by
  unfold backfill Producers.start
  have free : (Backfill.ofConfig config tip).send p.signal p.queue =
      (Backfill.ofConfig config tip).send {} p.queue := by
    rw [Backfill.send, unraised]
    rfl
  split
  · rw [Backfill.alone_sender, free]
    rcases (Backfill.ofConfig config tip).send {} p.queue with ⟨_ | _, q⟩ <;> exact ⟨rfl, rfl⟩
  · exact ⟨rfl, rfl⟩

theorem listen_alone (calm : ∀ s ∈ script, s.Calm) (unraised : p.signal.raised = false)
    (q : HeightQueue) : (listen config tip script p).2.queue =
      ((Producers.start config tip script q).live.alone p.queue).2 := by
  unfold listen Producers.start
  dsimp only
  split
  · exact (congrArg Prod.snd (Follower.alone_following calm
      { lastSeen := tip, queue := p.queue, signal := p.signal } unraised)).symm
  · rfl

/-- The service lets the one side send all it has and then the other, which is one of the ways to
interleave them. -/
theorem launch_interleaves (calm : ∀ s ∈ script, s.Calm) (unraised : p.signal.raised = false) :
    ∃ turns, ((Producers.start config tip script p.queue).play turns).ended = true ∧
      ((Producers.start config tip script p.queue).play turns).queue =
        (launch config tip script p).2.queue := by
  obtain ⟨turns, backfilled, queue, live⟩ :=
    (Producers.start config tip script p.queue).exists_backfilled
  obtain ⟨more, followed, queue', still⟩ :=
    ((Producers.start config tip script p.queue).play turns).exists_followed
  obtain ⟨same, signal⟩ := backfill_alone config tip
    { p with stats.active := p.stats.active + config.workers.toNat } script unraised
  have queue := queue.trans same.symm
  refine ⟨turns ++ more, ?_, ?_⟩
  · rw [Producers.play_append, Producers.ended, still, backfilled, followed]
    rfl
  · rw [Producers.play_append, queue', live, queue]
    exact (listen_alone config tip _ calm ((congrArg Signal.raised signal).trans unraised) _).symm

end Service
end ChainIndexer
