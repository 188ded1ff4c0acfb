import ChainIndexer.Proofs.Isolation
import ChainIndexer.Proofs.Offered
import ChainIndexer.Proofs.Timestamps
import ChainIndexer.Store.Document

/-! Averages of block times. A block offers one row for each period that began below it, measured
from the lowest stored block of the period whose time can be read. A search only ends at such
blocks, so that nothing can fail but to read the time of the genesis. -/
namespace ChainIndexer

/-- A block to measure a period from: the lowest one stored that is not before a time. Blocks whose
own time cannot be read do not count. -/
structure Tables.LowestSince (t : Tables) (time : Instant) (b : BlockRecord) (began : Instant) :
    Prop where
  stored : b ∈ t.blocks.rows
  reads : Timestamp.parse b.timestamp = .ok began
  within : time.NotAfter began
  lowest : ∀ b' ∈ t.blocks.rows, ∀ began', Timestamp.parse b'.timestamp = .ok began' →
    time.NotAfter began' → b.height ≤ b'.height

theorem SearchByTime.ends_iff {time : Instant} {b : BlockRecord} :
    ends time b = true ↔
      ∃ began, Timestamp.parse b.timestamp = .ok began ∧ time.NotAfter began := by
  unfold ends
  cases Timestamp.parse b.timestamp with
  | ok began => simp [Instant.le_iff]
  | error f => simp

theorem Tables.found_iff {t : Tables} {time : Instant} {b : BlockRecord} :
    (t.blockSince time).found = some b ↔ ∃ began, t.LowestSince time b began := by
  have ascending := t.blocks.ascending
  unfold blockSince
  -- Rows before the end of the search are lower and do not count, rows after it are higher.
  rw [SearchByTime.found_through, List.find?_eq_some_iff_append]
  constructor
  · rintro ⟨ends, below, above, split, passed⟩
    obtain ⟨began, reads, within⟩ := SearchByTime.ends_iff.1 ends
    refine ⟨began, split ▸ List.mem_append_right _ List.mem_cons_self, reads, within, ?_⟩
    intro b' stored' began' reads' within'
    have ends' := SearchByTime.ends_iff.2 ⟨began', reads', within'⟩
    rw [split] at stored' ascending
    rcases List.mem_append.1 stored' with earlier | later
    · have fails := passed b' earlier
      rw [ends'] at fails
      exact Bool.noConfusion fails
    · rcases List.mem_cons.1 later with rfl | later
      · exact UInt64.le_rfl
      · have lt := (List.pairwise_cons.1 (List.pairwise_append.1 ascending).2.1).1 b' later
        exact UInt64.le_of_lt (Std.compare_eq_lt.1 lt)
  · rintro ⟨began, stored, reads, within, lowest⟩
    obtain ⟨below, above, split⟩ := List.append_of_mem stored
    refine ⟨SearchByTime.ends_iff.2 ⟨began, reads, within⟩, below, above, split, ?_⟩
    intro b' earlier
    cases ends' : SearchByTime.ends time b' with
    | false => rfl
    | true =>
        obtain ⟨began', reads', within'⟩ := SearchByTime.ends_iff.1 ends'
        rw [split] at ascending lowest
        have lt := (List.pairwise_append.1 ascending).2.2 b' earlier b List.mem_cons_self
        have le := lowest b' (List.mem_append_left _ earlier) began' reads' within'
        exact absurd (Std.compare_eq_lt.1 lt) (UInt64.not_lt.2 le)

/-- Of the stored blocks whose time can be read, a higher one is not earlier. -/
def Tables.TimesAscend (t : Tables) : Prop :=
  ∀ b ∈ t.blocks.rows, ∀ b' ∈ t.blocks.rows, b.height ≤ b'.height → ∀ began began',
    Timestamp.parse b.timestamp = .ok began → Timestamp.parse b'.timestamp = .ok began' →
      began.NotAfter began'

theorem Tables.LowestSince.oldest {t : Tables} {time began : Instant} {b : BlockRecord}
    (h : t.LowestSince time b began) (ascend : t.TimesAscend) {b' : BlockRecord}
    {began' : Instant} (stored : b' ∈ t.blocks.rows)
    (reads : Timestamp.parse b'.timestamp = .ok began') (within : time.NotAfter began') :
    began.NotAfter began' :=
  ascend b h.stored b' stored (h.lowest b' stored began' reads within) began began' h.reads reads

namespace Consensus

open Attempt

/-- What a period is measured from: the beginning of the chain, or the lowest block in it. A window
begins so many seconds earlier, where a leap second is part of the second after it. -/
inductive MeasuresFrom (t : Tables) (time : Instant) : BlockTimePeriod → Mark → Prop where
  | genesis {row : Genesis} {began : Instant} (known : t.genesis = some row)
      (reads : Timestamp.parse row.time = .ok began) :
      MeasuresFrom t time .genesis ⟨began, row.initialHeight⟩
  | window {period : BlockTimePeriod} {seconds : Nat} {b : BlockRecord} {began : Instant}
      (listed : (period, seconds) ∈ [(.day, 86400), (.hour, 3600), (.minute, 60)])
      (lowest : t.LowestSince ⟨time.seconds + (time.nanos / 1000000000 : Nat) - seconds,
        time.nanos % 1000000000⟩ b began) :
      MeasuresFrom t time period ⟨began, b.height⟩

variable {w : World} {t u : Tables} {time : Instant} {mark since : Mark} {period : BlockTimePeriod}
  {seconds : Nat}

def mark? (timestamp : String) (height : Height) : Option Mark :=
  (Timestamp.parse timestamp).toOption.map (⟨·, height⟩)

def lowest? (t : Tables) (time : Instant) (seconds : Nat) : Option Mark :=
  (t.blockSince (time.before seconds)).found.bind fun b => mark? b.timestamp b.height

def since? (t : Tables) (time : Instant) : BlockTimePeriod → Option Mark
  | .genesis => t.genesis.bind fun row => mark? row.time row.initialHeight
  | .day => lowest? t time 86400
  | .hour => lowest? t time 3600
  | .minute => lowest? t time 60

theorem mark?_eq_some_iff {timestamp : String} {height : Height} :
    mark? timestamp height = some mark ↔
      ∃ began, Timestamp.parse timestamp = .ok began ∧ mark = ⟨began, height⟩ := by
  unfold mark?
  cases Timestamp.parse timestamp with
  | ok began => simp [Except.toOption, eq_comm]
  | error f => simp [Except.toOption]

theorem lowest?_eq_some_iff : lowest? t time seconds = some mark ↔
    ∃ b began, t.LowestSince (time.before seconds) b began ∧ mark = ⟨began, b.height⟩ := by
  unfold lowest?
  rw [Option.bind_eq_some_iff]
  constructor
  · rintro ⟨b, found, marked⟩
    obtain ⟨began, lowest⟩ := Tables.found_iff.1 found
    obtain ⟨began', reads, same⟩ := mark?_eq_some_iff.1 marked
    obtain rfl : began = began' := Except.ok.inj (lowest.reads.symm.trans reads)
    exact ⟨b, began, lowest, same⟩
  · rintro ⟨b, began, lowest, same⟩
    exact ⟨b, Tables.found_iff.2 ⟨began, lowest⟩, mark?_eq_some_iff.2 ⟨began, lowest.reads, same⟩⟩

theorem since?_eq_some_iff :
    since? t time period = some mark ↔ MeasuresFrom t time period mark := by
  constructor
  · intro found
    have window {seconds : Nat}
        (listed : (period, seconds) ∈ [(.day, 86400), (.hour, 3600), (.minute, 60)])
        (found : lowest? t time seconds = some mark) : MeasuresFrom t time period mark := by
      obtain ⟨b, began, lowest, rfl⟩ := lowest?_eq_some_iff.1 found
      exact .window listed lowest
    cases period with
    | genesis =>
        obtain ⟨row, known, marked⟩ := Option.bind_eq_some_iff.1 found
        obtain ⟨began, reads, rfl⟩ := mark?_eq_some_iff.1 marked
        exact .genesis known reads
    | day => exact window (by decide) found
    | hour => exact window (by decide) found
    | minute => exact window (by decide) found
  · rintro (⟨known, reads⟩ | ⟨listed, lowest⟩)
    · exact Option.bind_eq_some_iff.2 ⟨_, known, mark?_eq_some_iff.2 ⟨_, reads, rfl⟩⟩
    · have found := lowest?_eq_some_iff.2 ⟨_, _, lowest, rfl⟩
      simp only [List.mem_cons, Prod.mk.injEq, List.not_mem_nil, or_false] at listed
      rcases listed with ⟨rfl, rfl⟩ | ⟨rfl, rfl⟩ | ⟨rfl, rfl⟩ <;> exact found

theorem MeasuresFrom.near (h : MeasuresFrom t time period since) : since.time.Near := by
  rcases h with ⟨_, reads⟩ | ⟨_, lowest⟩
  · exact Timestamp.near_of_parse reads
  · exact Timestamp.near_of_parse lowest.reads

/-- Seconds between two blocks on the average, given the milliseconds and heights in between. -/
def averageOver (millis : Int64) (heights : UInt64) : Float :=
  millis.toFloat / 1000.0 / heights.toFloat

/-- A row for what lies between two blocks, the higher of which offers it. It is made from exactly
the milliseconds and the heights in between. -/
def Measured (since mark : Mark) (row : AverageBlockTime) : Prop :=
  since.height < mark.height ∧ ∃ (millis : Int64) (heights : UInt64),
    since.time.Elapsed mark.time millis.toInt ∧
      heights.toNat = mark.height.toNat - since.height.toNat ∧
      row = ⟨row.period, averageOver millis heights, mark.height⟩

theorem Measured.eq_averageOver {row : AverageBlockTime} {millis : Int64} {heights : UInt64}
    (h : Measured since mark row) (same : row.period = period)
    (elapsed : since.time.Elapsed mark.time millis.toInt)
    (apart : heights.toNat = mark.height.toNat - since.height.toNat) :
    row = ⟨period, averageOver millis heights, mark.height⟩ := by
  obtain rfl := same
  obtain ⟨_, millis', heights', elapsed', apart', made⟩ := h
  obtain rfl := Int64.toInt_inj.1 (elapsed'.unique elapsed)
  obtain rfl := UInt64.toNat_inj.1 (apart'.trans apart.symm)
  exact made

def row? (period : BlockTimePeriod) (mark since : Mark) : Option AverageBlockTime :=
  (averageSeconds mark since).map fun seconds => ⟨period, seconds, mark.height⟩

theorem row?_eq_some_iff (late : mark.time.Near) (early : since.time.Near)
    {row : AverageBlockTime} :
    row? period mark since = some row ↔ row.period = period ∧ Measured since mark row := by
  unfold row? averageSeconds
  have millis := Instant.elapsed_iff.2 (Instant.toInt_millisSince late early)
  by_cases below : since.height < mark.height
  · rw [if_neg (UInt64.not_le.2 below)]
    have heights := UInt64.toNat_sub_of_le _ _ (UInt64.le_of_lt below)
    constructor
    · rintro ⟨⟩
      exact ⟨rfl, below, _, _, millis, heights, rfl⟩
    · rintro ⟨rfl, measured⟩
      exact congrArg some (measured.eq_averageOver rfl millis heights).symm
  · rw [if_pos (UInt64.not_lt.1 below)]
    exact ⟨nofun, fun h => absurd h.2.1 below⟩

def average? (t : Tables) (mark : Mark) (period : BlockTimePeriod) : Option AverageBlockTime :=
  (since? t mark.time period).bind (row? period mark)

def windowOps (t : Tables) (mark : Mark) (window : BlockTimePeriod × Nat) : List Operation :=
  .blockSince (mark.time.before window.2) ::
    ((lowest? t mark.time window.2).bind (row? window.1 mark)).toList.map .saveAverageBlockTime

theorem alone_saveAverage_eq : (saveAverage period mark since).alone w t =
    (.ok (), (row? period mark since).toList.map .saveAverageBlockTime) := by
  unfold saveAverage row?
  cases averageSeconds mark since <;> rfl

theorem alone_measureText {timestamp : String} {began : Instant}
    (reads : Timestamp.parse timestamp = .ok began) (period : BlockTimePeriod) (mark : Mark)
    (height : Height) (t : Tables) :
    (liftExcept (Timestamp.parse timestamp) >>= fun time =>
        saveAverage period mark ⟨time, height⟩).alone w t =
      (.ok (), ((mark? timestamp height).bind (row? period mark)).toList.map
        .saveAverageBlockTime) := by
  rw [mark?_eq_some_iff.2 ⟨began, reads, rfl⟩, reads]
  exact alone_saveAverage_eq

theorem blocks_after_averages (rows : List AverageBlockTime) :
    (t.after (rows.map .saveAverageBlockTime)).blocks = t.blocks := by
  refine Tables.part_after (p := .blocks) ?_ t
  intro op member
  obtain ⟨row, _, rfl⟩ := List.mem_map.1 member
  rfl

theorem alone_measureWindow_eq (mark : Mark) (same : u.blocks = t.blocks)
    (window : BlockTimePeriod × Nat) :
    (measureWindow mark window).alone w u = (.ok (), windowOps t mark window) := by
  have searched := alone_blockSince (w := w) (mark.time.before window.2) u
  have found : (u.blockSince (mark.time.before window.2)).found =
      (t.blockSince (mark.time.before window.2)).found := by rw [Tables.blockSince, same]; rfl
  rw [Nearby.measureWindow_eq, alone_bind_ok (congrArg Prod.fst searched), searched, found]
  unfold windowOps lowest?
  cases lowest : (t.blockSince (mark.time.before window.2)).found with
  | none => rfl
  | some b =>
      obtain ⟨began, reads⟩ := SearchByTime.readable_of_found lowest
      have measured (u : Tables) : (Nearby.measureFrom window.1 mark (some b)).alone w u = _ :=
        alone_measureText reads window.1 mark b.height u
      rw [measured]
      rfl

theorem alone_windows (same : u.blocks = t.blocks) (listed : List (BlockTimePeriod × Nat)) :
    (listed.forM (measureWindow mark)).alone w u = (.ok (), listed.flatMap (windowOps t mark)) := by
  induction listed generalizing u with
  | nil => rfl
  | cons window listed ih =>
      -- What is saved for one window leaves the blocks as they are for the next.
      have one := alone_measureWindow_eq (w := w) mark same window
      have kept : (u.after (windowOps t mark window)).blocks = t.blocks :=
        (blocks_after_averages _).trans same
      change (measureWindow mark window >>= fun _ => listed.forM (measureWindow mark)).alone w u = _
      rw [alone_bind_ok (congrArg Prod.fst one), one, ih kept]
      rfl

/-- The genesis is stored, but with a time that cannot be read. -/
def Unreadable (t : Tables) (f : Fault) : Prop :=
  ∃ row, t.genesis = some row ∧ Timestamp.parse row.time = .error f

def blockOps (t : Tables) (mark : Mark) : List Operation :=
  .genesis :: (average? t mark .genesis).toList.map .saveAverageBlockTime ++
    windows.flatMap (windowOps t mark)

theorem alone_measureSinceGenesis_eq (mark : Mark) (readable : ∀ f, ¬ Unreadable t f) :
    (measureSinceGenesis mark).alone w t =
      (.ok (), .genesis :: (average? t mark .genesis).toList.map .saveAverageBlockTime) := by
  have asked : (perform .genesis).alone w t = (.ok t.genesis, [.genesis]) := rfl
  unfold measureSinceGenesis average? since?
  rw [alone_bind_ok (congrArg Prod.fst asked), asked]
  cases known : t.genesis with
  | none => rfl
  | some row =>
      cases reads : Timestamp.parse row.time with
      | error f => exact absurd ⟨row, known, reads⟩ (readable f)
      | ok began =>
          have measured := alone_measureText (w := w) reads .genesis mark row.initialHeight t
          exact congrArg (fun done => (done.1, Operation.genesis :: done.2)) measured

theorem alone_measureSinceGenesis_error (mark : Mark) {f : Fault} (unreadable : Unreadable t f) :
    (measureSinceGenesis mark).alone w t = (.error f, [.genesis]) := by
  obtain ⟨row, known, reads⟩ := unreadable
  have asked : (perform .genesis).alone w t = (.ok t.genesis, [.genesis]) := rfl
  unfold measureSinceGenesis
  rw [alone_bind_ok (congrArg Prod.fst asked), asked, known]
  have failed : (liftExcept (Timestamp.parse row.time) >>= fun time =>
      saveAverage .genesis mark ⟨time, row.initialHeight⟩).alone w (t.after [.genesis]) =
      (.error f, []) := by
    rw [reads]
    rfl
  exact congrArg (fun done => (done.1, Operation.genesis :: done.2)) failed

variable {b : Block}

theorem alone_handleBlock (read : Timestamp.parse b.timestamp = .ok time)
    (readable : ∀ f, ¬ Unreadable t f) :
    (handleBlock b).alone w t = (.ok (), blockOps t ⟨time, b.height⟩) := by
  have first := alone_measureSinceGenesis_eq (w := w) ⟨time, b.height⟩ readable
  have kept : (t.after (.genesis :: (average? t ⟨time, b.height⟩ .genesis).toList.map
      .saveAverageBlockTime)).blocks = t.blocks := blocks_after_averages _
  unfold handleBlock
  rw [read]
  change (measureSinceGenesis ⟨time, b.height⟩ >>= fun _ =>
    windows.forM (measureWindow ⟨time, b.height⟩)).alone w t = _
  rw [alone_bind_ok (congrArg Prod.fst first), first, alone_windows kept]
  rfl

theorem alone_handleBlock_error (read : Timestamp.parse b.timestamp = .ok time) {f : Fault}
    (unreadable : Unreadable t f) : (handleBlock b).alone w t = (.error f, [.genesis]) := by
  have first := alone_measureSinceGenesis_error (w := w) ⟨time, b.height⟩ unreadable
  unfold handleBlock
  rw [read]
  change (measureSinceGenesis ⟨time, b.height⟩ >>= fun _ =>
    windows.forM (measureWindow ⟨time, b.height⟩)).alone w t = _
  rw [alone_bind_error (congrArg Prod.fst first), first]

end Consensus

/-! What becomes of the averages. -/

def Operation.average? : Operation → Option AverageBlockTime
  | saveAverageBlockTime row => some row
  | _ => none

theorem Tables.averageBlockTimes_after (t : Tables) (ops : List Operation) :
    (t.after ops).averageBlockTimes =
      t.averageBlockTimes.writeAllLatest (·.height) (ops.filterMap Operation.average?) := by
  induction ops generalizing t with
  | nil => rfl
  | cons op ops ih =>
      rw [after_cons, ih, List.filterMap_cons]
      cases op <;> rfl

namespace Consensus

variable {w : World} {t : Tables} {mark : Mark} {time : Instant} {s : Store} {b : Block}
  {row : AverageBlockTime}

theorem average?_eq_some_iff (late : mark.time.Near) {period : BlockTimePeriod} :
    average? t mark period = some row ↔ row.period = period ∧
      ∃ since, MeasuresFrom t mark.time period since ∧ Measured since mark row := by
  unfold average?
  rw [Option.bind_eq_some_iff]
  constructor
  · rintro ⟨since, found, made⟩
    have start := since?_eq_some_iff.1 found
    obtain ⟨same, measured⟩ := (row?_eq_some_iff late start.near).1 made
    exact ⟨same, since, start, measured⟩
  · rintro ⟨same, since, start, measured⟩
    exact ⟨since, since?_eq_some_iff.2 start,
      (row?_eq_some_iff late start.near).2 ⟨same, measured⟩⟩

theorem exists_average_of_below {period : BlockTimePeriod} {since : Mark} (late : mark.time.Near)
    (start : MeasuresFrom t mark.time period since) (below : since.height < mark.height) :
    ∃ row, average? t mark period = some row ∧ row.period = period ∧ Measured since mark row := by
  obtain ⟨row, made⟩ : ∃ row, row? period mark since = some row := by
    unfold row? averageSeconds
    rw [if_neg (UInt64.not_le.2 below)]
    exact ⟨_, rfl⟩
  obtain ⟨same, measured⟩ := (row?_eq_some_iff late start.near).1 made
  exact ⟨row, (average?_eq_some_iff late).2 ⟨same, since, start, measured⟩, same, measured⟩

theorem average?_of_above {period : BlockTimePeriod} (late : mark.time.Near)
    (above : ∀ since, MeasuresFrom t mark.time period since → mark.height ≤ since.height) :
    average? t mark period = none := by
  refine Option.eq_none_iff_forall_ne_some.2 fun row offered => ?_
  obtain ⟨_, since, start, below, _⟩ := (average?_eq_some_iff late).1 offered
  exact absurd below (UInt64.not_lt.2 (above since start))

theorem filterMap_blockOps : (blockOps t mark).filterMap Operation.average? =
    BlockTimePeriod.all.filterMap (average? t mark) := by
  have offered (row? : Option AverageBlockTime) :
      (row?.toList.map Operation.saveAverageBlockTime).filterMap Operation.average? =
        row?.toList := by
    cases row? <;> rfl
  have cons (period : BlockTimePeriod) (periods : List BlockTimePeriod) :
      (period :: periods).filterMap (average? t mark) =
        (average? t mark period).toList ++ periods.filterMap (average? t mark) := by
    rw [List.filterMap_cons]
    cases average? t mark period <;> rfl
  simp only [BlockTimePeriod.all, cons]
  simp only [blockOps, windows, windowOps, List.filterMap_append, List.filterMap_cons, offered,
    Operation.average?, List.flatMap_cons, List.flatMap_nil, average?, since?, List.filterMap_nil,
    List.cons_append]

theorem mem_blockOps_iff (late : mark.time.Near) :
    .saveAverageBlockTime row ∈ blockOps t mark ↔
      ∃ since, MeasuresFrom t mark.time row.period since ∧ Measured since mark row := by
  have offers : .saveAverageBlockTime row ∈ blockOps t mark ↔
      row ∈ (blockOps t mark).filterMap Operation.average? := by
    rw [List.mem_filterMap]
    constructor
    · exact fun member => ⟨_, member, rfl⟩
    · rintro ⟨op, member, same⟩
      cases op <;> cases same
      exact member
  rw [offers, filterMap_blockOps, List.mem_filterMap]
  constructor
  · rintro ⟨period, _, made⟩
    obtain ⟨rfl, measured⟩ := (average?_eq_some_iff late).1 made
    exact measured
  · intro measured
    refine ⟨row.period, ?_, (average?_eq_some_iff late).2 ⟨rfl, measured⟩⟩
    cases row.period <;> decide

theorem get?_after_blockOps (late : mark.time.Near) (period : BlockTimePeriod) :
    (t.after (blockOps t mark)).averageBlockTimes.get? period =
      match average? t mark period with
      | some row => latest (·.height) row (t.averageBlockTimes.get? period)
      | none => t.averageBlockTimes.get? period := by
  have distinct : BlockTimePeriod.all.Nodup := by decide
  have listed : period ∈ BlockTimePeriod.all := by cases period <;> decide
  have keyed (period : BlockTimePeriod) (row : AverageBlockTime)
      (made : average? t mark period = some row) : row.period = period :=
    ((average?_eq_some_iff late).1 made).1
  rw [Tables.averageBlockTimes_after, filterMap_blockOps]
  split
  · rename_i row made
    exact Table.get?_writeAllLatest_offered _ distinct keyed listed made
  · rename_i unmade
    exact Table.get?_writeAllLatest_unoffered _ distinct keyed fun _ => unmade

theorem run_handleBlock (opened : s.closed = false) :
    w.outcome (handleBlock b) s = ((handleBlock b).alone w s.tables).1 ∧
      w.complete (handleBlock b) s =
        { tables := s.tables.after ((handleBlock b).alone w s.tables).2 } := by
  have made : (handleBlock b).Calls (Effect.uses Module.consensus.uses) :=
    Module.consensus.calls_handleBlock ⟨b, ⟨b.height, []⟩, []⟩
  have leaves : (handleBlock b).Calls (· ≠ .perform .close) := by
    refine made.imp ?_
    rintro _ does rfl
    exact Bool.noConfusion does
  have ran := run_handle (w := w) opened (leaves [])
  exact ⟨congrArg Prod.fst ran, congrArg Prod.snd ran⟩

theorem outcome_eq_error_iff (opened : s.closed = false)
    (read : Timestamp.parse b.timestamp = .ok time) {f : Fault} :
    w.outcome (handleBlock b) s = .error f ↔ Unreadable s.tables f := by
  rw [(run_handleBlock opened).1]
  constructor
  · intro ended
    by_cases unreadable : ∃ f', Unreadable s.tables f'
    · obtain ⟨f', unreadable⟩ := unreadable
      rw [alone_handleBlock_error read unreadable] at ended
      cases ended
      exact unreadable
    · rw [alone_handleBlock read (not_exists.1 unreadable)] at ended
      cases ended
  · intro unreadable
    rw [alone_handleBlock_error read unreadable]

theorem complete_of_unreadable (opened : s.closed = false)
    (read : Timestamp.parse b.timestamp = .ok time) {f : Fault}
    (unreadable : Unreadable s.tables f) : w.complete (handleBlock b) s = s := by
  rw [(run_handleBlock opened).2, alone_handleBlock_error read unreadable]
  obtain ⟨tables, closed⟩ := s
  cases opened
  rfl

/-- Whatever blocks are stored, a block with a readable time fails to be measured if and only if
the genesis is stored with a time that cannot be read, and has then changed nothing. Otherwise it
offers one row for each period, from exactly the milliseconds and heights since the lowest block of
the period, or since the genesis, if these are at a lower height. No other tables are changed. If
the times of the stored blocks do not decrease with their heights, then the lowest block of a period
is an oldest one. -/
theorem averages_measured (opened : s.closed = false) (w : World)
    (read : Timestamp.parse b.timestamp = .ok time) :
    (∀ f, w.outcome (handleBlock b) s = .error f ↔ Unreadable s.tables f) ∧
    (∀ f, Unreadable s.tables f → w.complete (handleBlock b) s = s) ∧
    (w.outcome (handleBlock b) s = .ok () →
      (∀ row, .saveAverageBlockTime row ∈ ((handleBlock b).alone w s.tables).2 ↔
        ∃ since, MeasuresFrom s.tables time row.period since ∧
          Measured since ⟨time, b.height⟩ row) ∧
      ∀ period,
        (∀ since, MeasuresFrom s.tables time period since → since.height < b.height →
          ∃ row, row.period = period ∧ Measured since ⟨time, b.height⟩ row ∧
            (w.complete (handleBlock b) s).tables.averageBlockTimes.get? period =
              latest (·.height) row (s.tables.averageBlockTimes.get? period)) ∧
        ((∀ since, MeasuresFrom s.tables time period since → b.height ≤ since.height) →
          (w.complete (handleBlock b) s).tables.averageBlockTimes.get? period =
            s.tables.averageBlockTimes.get? period)) ∧
    (∀ p, p ≠ .averageBlockTimes →
      (w.complete (handleBlock b) s).tables.part p = s.tables.part p) ∧
    (s.tables.TimesAscend → ∀ since r began, s.tables.LowestSince since r began →
      ∀ r' ∈ s.tables.blocks.rows, ∀ began', Timestamp.parse r'.timestamp = .ok began' →
        since.NotAfter began' → began.NotAfter began') := by
  have late : (⟨time, b.height⟩ : Mark).time.Near := Timestamp.near_of_parse read
  refine ⟨fun f => outcome_eq_error_iff opened read,
    fun f unreadable => complete_of_unreadable opened read unreadable, ?_, ?_, ?_⟩
  · intro ended
    have readable : ∀ f, ¬ Unreadable s.tables f := by
      intro f unreadable
      rw [(outcome_eq_error_iff opened read).2 unreadable] at ended
      cases ended
    have offers := alone_handleBlock (w := w) read readable
    have left := (run_handleBlock (w := w) (b := b) opened).2
    rw [offers] at left ⊢
    rw [left]
    refine ⟨fun row => mem_blockOps_iff late, fun period => ⟨?_, ?_⟩⟩
    · intro since start below
      obtain ⟨row, offered, same, measured⟩ := exists_average_of_below late start below
      refine ⟨row, same, measured, ?_⟩
      rw [get?_after_blockOps late, offered]
    · intro above
      rw [get?_after_blockOps late, average?_of_above late above]
  · intro p other
    have foreign : Module.consensus.owns p = false := by
      cases p <;> first | rfl | contradiction
    let data : BlockData := ⟨b, ⟨b.height, []⟩, []⟩
    have kept : (w.complete (Module.consensus.handleBlock data) s).tables.part p = _ :=
      Module.part_handleBlock foreign w s
    exact kept
  · intro ascend since r began lowest r' stored began' reads within
    exact lowest.oldest ascend stored reads within

def storedAt (height : Height) (timestamp : String) : Operation :=
  .saveBlock { height, hash := "", numTxs := 0, totalGas := 0, proposerAddress := ⟨""⟩, timestamp }

def unknownAndLater : List Operation :=
  [storedAt 1 "unknown", storedAt 2 "2024-01-01T00:00:03Z", storedAt 3 "2024-01-01T00:01:03Z",
    storedAt 7 "2024-01-01T00:01:05Z"]

def fifth : Block :=
  { height := 5, hash := "", chainId := "quiet", proposerAddress := [1]
    timestamp := "2024-01-01T00:01:09Z", txs := [], lastCommit := ⟨4, []⟩ }

/-- The first block has no readable time and the second is before the minute, so that the hour is
measured from the second and the minute from the third. A genesis without readable time makes it
fail. -/
theorem averages_measured_unknown :
    (Store.new.run unknownAndLater).closed = false ∧
      Timestamp.parse fifth.timestamp = .ok ⟨1704067269, 0⟩ ∧
      (World.quiet.complete (handleBlock fifth)
          (Store.new.run unknownAndLater)).tables.averageBlockTimes.get? .minute =
        some ⟨.minute, averageOver 6000 2, 5⟩ ∧
      (World.quiet.complete (handleBlock fifth)
          (Store.new.run unknownAndLater)).tables.averageBlockTimes.get? .hour =
        some ⟨.hour, averageOver 66000 3, 5⟩ ∧
      (World.quiet.complete (handleBlock fifth)
          (Store.new.run unknownAndLater)).tables.averageBlockTimes.get? .genesis = none ∧
      World.quiet.complete (handleBlock fifth)
          (Store.new.run (.saveGenesis ⟨"quiet", "unknown", 1⟩ :: unknownAndLater)) =
        Store.new.run (.saveGenesis ⟨"quiet", "unknown", 1⟩ :: unknownAndLater) := by
  have opened : (Store.new.run unknownAndLater).closed = false := rfl
  have opened' : (Store.new.run (.saveGenesis ⟨"quiet", "unknown", 1⟩ ::
      unknownAndLater)).closed = false := rfl
  have named : Timestamp.read? fifth.timestamp = some ⟨1704067269, 0⟩ := by decide +kernel
  have read : Timestamp.parse fifth.timestamp = .ok ⟨1704067269, 0⟩ := by
    rw [Timestamp.parse, named]
  obtain ⟨ends, _, offers, _⟩ := averages_measured opened World.quiet read
  obtain ⟨_, keeps, _⟩ := averages_measured opened' World.quiet read
  have ended : World.quiet.outcome (handleBlock fifth) (Store.new.run unknownAndLater) =
      .ok () := by
    cases came : World.quiet.outcome (handleBlock fifth) (Store.new.run unknownAndLater) with
    | ok _ => rfl
    | error f =>
        obtain ⟨_, known, _⟩ := (ends f).1 came
        cases (known : none = some _)
  have minute : MeasuresFrom (Store.new.run unknownAndLater).tables ⟨1704067269, 0⟩ .minute
      ⟨⟨1704067263, 0⟩, 3⟩ := since?_eq_some_iff.1 (by decide +kernel)
  have hour : MeasuresFrom (Store.new.run unknownAndLater).tables ⟨1704067269, 0⟩ .hour
      ⟨⟨1704067203, 0⟩, 2⟩ := since?_eq_some_iff.1 (by decide +kernel)
  have unknown : ∀ since, ¬ MeasuresFrom (Store.new.run unknownAndLater).tables
      ⟨1704067269, 0⟩ .genesis since := by
    intro since start
    cases (since?_eq_some_iff.2 start : none = some since)
  refine ⟨opened, read, ?_, ?_, ?_, ?_⟩
  · obtain ⟨_, same, measured, stored⟩ := ((offers ended).2 .minute).1 _ minute (by decide)
    have elapsed : Instant.Elapsed ⟨1704067263, 0⟩ ⟨1704067269, 0⟩ (6000 : Int64).toInt :=
      Instant.elapsed_iff.2 (by decide)
    exact stored.trans (congrArg some (measured.eq_averageOver same elapsed (by decide)))
  · obtain ⟨_, same, measured, stored⟩ := ((offers ended).2 .hour).1 _ hour (by decide)
    have elapsed : Instant.Elapsed ⟨1704067203, 0⟩ ⟨1704067269, 0⟩ (66000 : Int64).toInt :=
      Instant.elapsed_iff.2 (by decide)
    exact stored.trans (congrArg some (measured.eq_averageOver same elapsed (by decide)))
  · exact ((offers ended).2 .genesis).2 fun since start => absurd start (unknown since)
  · exact keeps _ ⟨_, rfl, rfl⟩

end Consensus
end ChainIndexer
