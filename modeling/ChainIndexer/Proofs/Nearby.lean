import ChainIndexer.Proofs.Alone

/-! What modules can tell apart. While they handle a block, it makes no difference to them whether
the block's own row is stored already: a search that finds it measures no time. -/
namespace ChainIndexer

variable {w : World}

theorem Table.find?_putRow_absent {ρ κ : Type} [Ord κ] {key : ρ → κ} {row : ρ} {rows : List ρ}
    [Std.TransOrd κ] (ascending : rows.Pairwise fun a b => compare (key a) (key b) = .lt)
    (test : ρ → Bool) :
    (putRow key (fun _ _ => false) row rows).find? test = rows.find? test ∨
      (putRow key (fun _ _ => false) row rows).find? test = some row ∧
        ∀ found, rows.find? test = some found → compare (key row) (key found) = .lt := by
  induction rows with
  | nil =>
      cases passes : test row with
      | true => exact .inr ⟨by simp [putRow, passes], nofun⟩
      | false => exact .inl (by simp [putRow, passes])
  | cons stored rest ih =>
      obtain ⟨below, rest_asc⟩ := List.pairwise_cons.1 ascending
      unfold putRow
      split
      · rename_i lt
        cases passes : test row with
        | true =>
            refine .inr ⟨by simp [passes], ?_⟩
            intro found eq
            rcases List.mem_cons.1 (List.mem_of_find?_eq_some eq) with rfl | member
            · exact lt
            · exact Std.TransCmp.lt_trans lt (below found member)
        | false => exact .inl (by simp [passes])
      · exact .inl rfl
      · cases passes : test stored with
        | true => exact .inl (by simp [passes])
        | false =>
            have skipped : ¬ test stored = true := by simp [passes]
            rw [List.find?_cons_of_neg skipped, List.find?_cons_of_neg skipped]
            exact ih rest_asc

def SearchByTime.ends (time : Instant) (b : BlockRecord) : Bool :=
  match Timestamp.parse b.timestamp with
  | .ok time' => time.le time'
  | .error _ => false

theorem SearchByTime.found_through (time : Instant) (bs : List BlockRecord) :
    (through time bs).found = bs.find? (ends time) := by
  induction bs with
  | nil => rfl
  | cons b bs ih =>
      unfold through
      rw [List.find?_cons, ends]
      cases Timestamp.parse b.timestamp with
      | error f => exact ih
      | ok time' => cases later : time.le time' <;> simp [later, ih]

theorem SearchByTime.readable_of_found {time : Instant} {bs : List BlockRecord} {b : BlockRecord}
    (found : (through time bs).found = some b) :
    ∃ time', Timestamp.parse b.timestamp = .ok time' := by
  rw [found_through] at found
  have stops := List.find?_some found
  unfold ends at stops
  cases parsed : Timestamp.parse b.timestamp with
  | ok time' => exact ⟨time', rfl⟩
  | error f =>
      rw [parsed] at stops
      cases stops

def Operation.searches : Operation → Bool
  | blockSince _ => true
  | _ => false

/-- Tables that the modules cannot tell apart while they handle a block, whether its row is stored
already or not. -/
structure Nearby (row : BlockRecord) (t u : Tables) : Prop where
  validators : t.validators = u.validators
  genesis : t.genesis = u.genesis
  blocks : u.blocks = t.blocks ∨ u.blocks = t.blocks.writeOnce row

namespace Nearby

open Attempt

variable {row : BlockRecord}

theorem operation {op : Operation} (serves : op.servesModules = true)
    (plain : op.searches = false) {t u : Tables} (h : Nearby row t u) :
    op.answer t = op.answer u ∧ Nearby row (op.effect t) (op.effect u) := by
  obtain ⟨validators, genesis, blocks⟩ := h
  cases op with
  | validator address =>
      exact ⟨congrArg (·.get? address) validators, validators, genesis, blocks⟩
  | genesis => exact ⟨genesis, validators, genesis, blocks⟩
  | _ =>
      first
      | exact ⟨rfl, validators, genesis, blocks⟩
      | exact Bool.noConfusion serves
      | exact Bool.noConfusion plain

/-- A search finds the same block in both, or the block's own row in one and nothing lower in the
other. -/
theorem blockSince {t u : Tables} (h : Nearby row t u) (time : Instant) :
    (u.blockSince time).found = (t.blockSince time).found ∨
      (u.blockSince time).found = some row ∧
        ∀ found, (t.blockSince time).found = some found → row.height ≤ found.height := by
  unfold Tables.blockSince
  rw [SearchByTime.found_through, SearchByTime.found_through]
  rcases h.blocks with same | put
  · rw [same]
    exact .inl rfl
  · rw [put]
    refine (Table.find?_putRow_absent t.blocks.ascending (SearchByTime.ends time)).imp id ?_
    rintro ⟨found, above⟩
    refine ⟨found, ?_⟩
    intro b eq
    exact UInt64.le_of_lt (Std.compare_eq_lt.1 (above b eq))

def measureFrom (period : BlockTimePeriod) (mark : Consensus.Mark) :
    Option BlockRecord → Attempt Unit
  | none => pure ()
  | some b => do
    let time ← liftExcept (Timestamp.parse b.timestamp)
    Consensus.saveAverage period mark ⟨time, b.height⟩

theorem measureWindow_eq (mark : Consensus.Mark) (window : BlockTimePeriod × Nat) :
    Consensus.measureWindow mark window =
      Attempt.blockSince (mark.time.before window.2) >>= measureFrom window.1 mark := by
  refine congrArg (Attempt.blockSince (mark.time.before window.2) >>= ·) ?_
  funext found
  cases found <;> rfl

/-- Nothing is measured from a block that is not below the mark. -/
theorem alone_measureFrom {mark : Consensus.Mark} {period : BlockTimePeriod}
    {found : Option BlockRecord} {time : Instant} {t : Tables}
    (since : (t.blockSince time).found = found)
    (above : ∀ b, found = some b → mark.height ≤ b.height) (u : Tables) :
    (measureFrom period mark found).alone w u = (.ok (), []) := by
  cases found with
  | none => rfl
  | some b =>
      obtain ⟨time', parsed⟩ := SearchByTime.readable_of_found since
      have nothing : Consensus.averageSeconds mark ⟨time', b.height⟩ = none :=
        if_pos (above b rfl)
      have read : Attempt.alone w (liftExcept (Timestamp.parse b.timestamp)) u =
          (.ok time', []) := by
        rw [parsed]
        rfl
      change Attempt.alone w (liftExcept (Timestamp.parse b.timestamp) >>= fun time =>
        Consensus.saveAverage period mark ⟨time, b.height⟩) u = _
      rw [alone_bind_ok (congrArg Prod.fst read), read]
      unfold Consensus.saveAverage
      rw [nothing]
      rfl

theorem alike_measureFrom (period : BlockTimePeriod) (mark : Consensus.Mark)
    (found : Option BlockRecord) : (measureFrom period mark found).Alike w (Nearby row) := by
  have made : (measureFrom period mark found).Calls
      fun c => ∃ row, c = .perform (.saveAverageBlockTime row) := by
    cases found with
    | none => exact calls_pure _
    | some b =>
        refine calls_bind (calls_liftExcept _) fun _ => ?_
        exact Module.calls_saveAverage fun row => ⟨row, rfl⟩
  refine alike_of_calls made ?_
  rintro op ⟨_, same⟩ t u h
  cases same
  exact operation rfl rfl h

theorem alike_measureWindow {mark : Consensus.Mark} (level : mark.height = row.height)
    (window : BlockTimePeriod × Nat) :
    (Consensus.measureWindow mark window).Alike w (Nearby row) := by
  intro t u h
  rw [measureWindow_eq]
  have one : ((Attempt.blockSince (mark.time.before window.2)).alone w t).1 = .ok _ :=
    congrArg Prod.fst (alone_blockSince _ t)
  have two : ((Attempt.blockSince (mark.time.before window.2)).alone w u).1 = .ok _ :=
    congrArg Prod.fst (alone_blockSince _ u)
  rw [alone_bind_ok one, alone_bind_ok two, alone_blockSince, alone_blockSince]
  rcases h.blockSince (mark.time.before window.2) with same | ⟨found, above⟩
  · obtain ⟨same', kept⟩ := alike_measureFrom (w := w) window.1 mark
      (t.blockSince (mark.time.before window.2)).found t u h
    rw [same]
    refine ⟨?_, kept⟩
    rw [Tables.after_cons, Tables.after_cons]
    exact congrArg (fun r => (r.1, _ :: r.2)) same'
  · have nothing : ∀ u, (measureFrom window.1 mark
        (t.blockSince (mark.time.before window.2)).found).alone w u = (.ok (), []) :=
      alone_measureFrom rfl fun b eq => level ▸ above b eq
    have nothing' : ∀ t, (measureFrom window.1 mark
        (u.blockSince (mark.time.before window.2)).found).alone w t = (.ok (), []) := by
      refine alone_measureFrom rfl fun b eq => ?_
      rw [Option.some.inj (eq.symm.trans found), level]
      exact UInt64.le_rfl
    rw [nothing, nothing']
    exact ⟨rfl, h⟩

theorem alike_blockHandler {m : Module} (retains : ∀ config, m ≠ .pruning config)
    {handler : BlockData → Attempt Unit} (own : m.blockHandler? = some handler)
    {data : BlockData} (level : data.block.height = row.height) :
    (handler data).Alike w (Nearby row) := by
  cases m with
  | consensus =>
      cases own
      refine alike_bind (alike_liftExcept _) fun time => ?_
      refine alike_bind ?_ fun _ => alike_forM fun window _ => alike_measureWindow level window
      have made : (Consensus.measureSinceGenesis ⟨time, data.block.height⟩).Calls
          (Effect.uses fun
            | .genesis | .saveAverageBlockTime _ => true
            | _ => false) := Module.calls_measureSinceGenesis rfl fun _ => rfl
      refine alike_of_calls made ?_
      intro op used t u h
      cases op <;> first | exact operation rfl rfl h | cases used
  | pruning config => exact absurd rfl (retains config)
  | _ =>
      refine alike_of_calls (Module.calls_blockHandler own data) ?_
      intro op used t u h
      cases op <;> first | exact operation rfl rfl h | cases used

end Nearby
end ChainIndexer
