import ChainIndexer.Proofs.Hex
import ChainIndexer.Proofs.InTurn

/-! Signatures over blocks. The commits of all heights share one table, whose rows are told apart
by validator and time and not by height. So a commit has all its signatures in it, but for those
of a validator that signed an earlier indexed commit at the very same time. -/
namespace ChainIndexer

theorem find?_append_of_subset {α : Type} {l more : List α} (repeats : more ⊆ l) (p : α → Bool) :
    (l ++ more).find? p = l.find? p := by
  rw [List.find?_append]
  cases found : l.find? p with
  | some a => rfl
  | none =>
      rw [Option.none_or, List.find?_eq_none]
      intro a member
      exact List.find?_eq_none.1 found a (repeats member)

theorem find?_of_nodup {α κ : Type} [DecidableEq κ] {key : α → κ} {l : List α}
    (distinct : (l.map key).Nodup) {a : α} (member : a ∈ l) :
    l.find? (key · = key a) = some a := by
  induction l with
  | nil => cases member
  | cons first l ih =>
      obtain ⟨other, distinct⟩ := List.nodup_cons.1 distinct
      rcases List.mem_cons.1 member with rfl | later
      · simp
      · have differs : key first ≠ key a := fun same => other (same ▸ List.mem_map_of_mem later)
        rw [List.find?_cons_of_neg (by simpa using differs)]
        exact ih distinct later

def CommitEntry.key (e : CommitEntry) : CommitSignature.Key :=
  ⟨.ofRaw e.validatorAddress, e.timestamp⟩

theorem CommitEntry.key_inj {e e' : CommitEntry} : e.key = e'.key ↔
    e.validatorAddress = e'.validatorAddress ∧ e.timestamp = e'.timestamp := by
  rw [key, key, CommitSignature.Key.mk.injEq, ConsensusAddress.ofRaw_inj]

theorem ValidatorSet.signature_eq_ok {set : ValidatorSet} {height : Height} {e : CommitEntry}
    {row : CommitSignature} (h : set.signature height e = .ok row) :
    row.height = height ∧ row.key = e.key ∧
      (set.findByAddress e.validatorAddress).map (fun v =>
        ({ validatorAddress := .ofRaw e.validatorAddress, votingPower := v.votingPower
           proposerPriority := v.proposerPriority, height, timestamp := e.timestamp } :
          CommitSignature)) = some row := by
  unfold signature at h
  split at h
  · cases h
  · rename_i v found
    cases h
    rw [found]
    exact ⟨rfl, rfl, rfl⟩

theorem Registry.Retains.retirements_eq_nil {r : Registry} (h : r.Retains) (height : Height) :
    r.retirements height = [] := by
  apply List.flatMap_eq_nil_iff.2
  intro m member
  apply Module.retirements_eq_nil
  rintro config rfl
  exact h config member

theorem Indexer.Persists.commitSignatures_eq {ix : Indexer} {data : Fetched}
    {signatures : List CommitSignature} {ops : List Operation}
    (h : ix.Persists data signatures ops)
    (none : ix.registry.retirements data.block.height = []) (t : Tables) :
    (t.after ops).commitSignatures = t.commitSignatures.writeAllOnce signatures := by
  have txs : (data.txs.flatMap Transaction.writes).filter (·.changes .commitSignatures) = [] := by
    apply List.filter_eq_nil_iff.2
    intro op member
    obtain ⟨tx, _, listed⟩ := List.mem_flatMap.1 member
    simp only [Transaction.writes, List.mem_cons, List.not_mem_nil, or_false] at listed
    rcases listed with rfl | rfl <;> exact Bool.false_ne_true
  have after := @Persists.part_after _ _ _ _ .commitSignatures h (fun _ => rfl) t
  rw [none, List.append_nil, List.filter_append, Fetched.writes, List.filter_append, txs] at after
  exact after

namespace World

/-- The node answers for the heights it is asked about, with commits of the blocks before, in which
nobody signs twice. -/
structure Chained (w : World) : Prop where
  block : ∀ height b, w.node (.block height) = .ok b → b.height = height
  commit : ∀ height b, height ≠ 0 → w.node (.block height) = .ok b →
    b.lastCommit.height = height - 1
  signers : ∀ height b, w.node (.block height) = .ok b →
    ((b.lastCommit.entries.filter CommitEntry.isSigned).map (·.validatorAddress)).Nodup

/-- The entries with a signature, in the commit that is in the block at a height. -/
def signed (w : World) (height : Height) : List CommitEntry :=
  match w.node (.block height) with
  | .ok b => b.lastCommit.entries.filter CommitEntry.isSigned
  | .error _ => []

/-- Those of them whose validator did not sign at the same time at any of some earlier heights. -/
def fresh (w : World) (earlier : List Height) (height : Height) : List CommitEntry :=
  (w.signed height).filter fun e => !(earlier.flatMap w.signed).any fun e' =>
    e'.validatorAddress = e.validatorAddress ∧ e'.timestamp = e.timestamp

def rows (w : World) (height : Height) : List CommitSignature :=
  match w.node (.block height), w.node (.validators height) with
  | .ok b, .ok set =>
    match set.signatures b.lastCommit with
    | .ok rows => rows
    | .error _ => []
  | _, _ => []

structure Resolves (w : World) (height : Height) (b : Block) (set : ValidatorSet) : Prop where
  block : w.node (.block height) = .ok b
  validators : w.node (.validators height) = .ok set
  signatures : set.signatures b.lastCommit = .ok (w.rows height)

variable {w : World} {height : Height}

theorem resolves_of_fetch {data : Fetched} {signatures : List CommitSignature}
    (fetched : ((w.still.fetch height).run ()).1 = .ok data)
    (resolved : data.resolve = .ok signatures) :
    w.Resolves height data.block data.validators ∧ signatures = w.rows height := by
  obtain ⟨block, _, _, _, validators⟩ := Surroundings.answered_of_fetch fetched
  have block : w.node (.block height) = .ok data.block := block
  have validators : w.node (.validators height) = .ok data.validators := validators
  have signed : data.validators.signatures data.block.lastCommit = .ok signatures := by
    unfold Fetched.resolve at resolved
    split at resolved
    · cases resolved
    · exact resolved
  have rows : w.rows height = signatures := by
    unfold rows
    rw [block, validators]
    simp only [signed]
  exact ⟨⟨block, validators, rows ▸ signed⟩, rows.symm⟩

namespace Resolves

variable {b : Block} {set : ValidatorSet}

theorem mapM_signed (h : w.Resolves height b set) :
    (w.signed height).mapM (set.signature b.lastCommit.height) = .ok (w.rows height) := by
  unfold signed
  rw [h.block]
  exact h.signatures

theorem map_key_signed (h : w.Resolves height b set) :
    (w.signed height).map CommitEntry.key = (w.rows height).map CommitSignature.key :=
  map_eq_map_of_mapM_eq_ok h.mapM_signed fun _ _ made =>
    (ValidatorSet.signature_eq_ok made).2.1.symm

theorem height_of_mem_rows (h : w.Resolves height b set) (chained : w.Chained)
    (positive : height ≠ 0) {row : CommitSignature} (member : row ∈ w.rows height) :
    row.height = height - 1 := by
  obtain ⟨e, _, made⟩ := mem_of_mapM_eq_ok h.mapM_signed row member
  rw [(ValidatorSet.signature_eq_ok made).1, chained.commit height b positive h.block]

theorem nodup_keys (h : w.Resolves height b set) (chained : w.Chained) :
    ((w.rows height).map CommitSignature.key).Nodup := by
  have signers := chained.signers height b h.block
  rw [← h.map_key_signed]
  unfold signed
  rw [h.block]
  apply List.pairwise_map.2
  apply (List.pairwise_map.1 signers).imp
  intro e e' differ same
  exact differ (CommitEntry.key_inj.1 same).1

end Resolves

/-- What is known of the signatures while heights are accepted: each is the first of its key among
all that were written. -/
structure Signed (w : World) (accepted : List Height) (t : Tables) : Prop where
  stored : ∀ height, t.blocks.contains height = true → height ∈ accepted
  resolved : ∀ height ∈ accepted, height ≠ 0 ∧ ∃ b set, w.Resolves height b set
  signatures : ∀ key, t.commitSignatures.get? key =
    (accepted.flatMap w.rows).find? (·.key = key)

namespace Signed

variable {ix : Indexer} {accepted : List Height} {t u : Tables} {height? : Option Height}

theorem empty (w : World) : w.Signed [] {} where
  stored := nofun
  resolved := nofun
  signatures _ := rfl

theorem step (retains : ix.registry.Retains) (chained : w.Chained) (h : w.Signed accepted t)
    (comes : w.still.Comes ix () t height? u) : w.Signed (accepted ++ height?.toList) u := by
  cases comes with
  | aside ops sidestep =>
      have blocks : (t.after ops).blocks = t.blocks :=
        @Tables.part_after_sidesteps .blocks rfl ops sidestep t
      have signatures : (t.after ops).commitSignatures = t.commitSignatures :=
        @Tables.part_after_sidesteps .commitSignatures rfl ops sidestep t
      rw [Option.toList_none, List.append_nil]
      constructor
      · rw [blocks]
        exact h.stored
      · exact h.resolved
      · rw [signatures]
        exact h.signatures
  | spared height positive stored =>
      have listed := h.stored height stored
      constructor
      · intro k present
        exact List.mem_append_left _ (h.stored k present)
      · intro k member
        rcases List.mem_append.1 member with earlier | last
        · exact h.resolved k earlier
        · rw [List.mem_singleton.1 last]
          exact h.resolved height listed
      · intro key
        rw [h.signatures, List.flatMap_append, find?_append_of_subset]
        intro row member
        obtain ⟨k, same, member⟩ := List.mem_flatMap.1 member
        rw [List.mem_singleton.1 same] at member
        exact List.mem_flatMap.2 ⟨height, listed, member⟩
  | indexed height data signatures ops positive fetched resolved persists =>
      obtain ⟨resolves, rfl⟩ := resolves_of_fetch fetched resolved
      constructor
      · intro k present
        rcases (persists.contains_iff t k).1 present with ⟨earlier, _⟩ | same
        · exact List.mem_append_left _ (h.stored k earlier)
        · rw [chained.block height _ resolves.block] at same
          exact List.mem_append_right _ (List.mem_singleton.2 same.symm)
      · intro k member
        rcases List.mem_append.1 member with earlier | last
        · exact h.resolved k earlier
        · rw [List.mem_singleton.1 last]
          exact ⟨positive, _, _, resolves⟩
      · intro key
        rw [persists.commitSignatures_eq (retains.retirements_eq_nil _), Table.get?_writeAllOnce,
          h.signatures, List.head?_filter, List.flatMap_append, List.find?_append]
        simp

theorem eq_of_mem_rows (h : w.Signed accepted t) (chained : w.Chained) {k : Height}
    (listed : k ∈ accepted) {row : CommitSignature} (member : row ∈ w.rows k)
    (level : row.height = height - 1) : k = height := by
  obtain ⟨positive, b, set, resolves⟩ := h.resolved k listed
  rw [resolves.height_of_mem_rows chained positive member] at level
  exact (UInt64.sub_left_inj 1).1 level

theorem mem_rows_iff (h : w.Signed accepted t) {row : CommitSignature} :
    row ∈ t.commitSignatures.rows ↔
      (accepted.flatMap w.rows).find? (·.key = row.key) = some row := by
  rw [← h.signatures, Table.get?_eq_some_iff]
  simp

variable {before after : List Height}

theorem mem_commitSignaturesAt_iff (h : w.Signed (before ++ height :: after) t)
    (chained : w.Chained) (first : height ∉ before) {row : CommitSignature} :
    row ∈ t.commitSignaturesAt (height - 1) ↔ row ∈ w.rows height ∧
      ∀ earlier ∈ before.flatMap w.rows, earlier.key ≠ row.key := by
  rw [Tables.commitSignaturesAt, List.mem_filter, h.mem_rows_iff, beq_iff_eq]
  constructor
  · rintro ⟨found, level⟩
    have own : row ∈ w.rows height := by
      obtain ⟨k, listed, member⟩ := List.mem_flatMap.1 (List.mem_of_find?_eq_some found)
      exact h.eq_of_mem_rows chained listed member level ▸ member
    refine ⟨own, ?_⟩
    rw [List.flatMap_append, List.find?_append] at found
    cases old : (before.flatMap w.rows).find? (·.key = row.key) with
    | some earlier =>
        rw [old] at found
        obtain rfl : earlier = row := Option.some.inj found
        obtain ⟨k, listed, member⟩ := List.mem_flatMap.1 (List.mem_of_find?_eq_some old)
        have same := h.eq_of_mem_rows chained (List.mem_append_left _ listed) member level
        exact absurd (same ▸ listed) first
    | none => simpa using List.find?_eq_none.1 old
  · rintro ⟨member, new⟩
    obtain ⟨positive, b, set, resolves⟩ := h.resolved height (by simp)
    have old : (before.flatMap w.rows).find? (·.key = row.key) = none :=
      List.find?_eq_none.2 fun earlier listed => by simpa using new earlier listed
    rw [List.flatMap_append, List.flatMap_cons, List.find?_append, List.find?_append, old,
      find?_of_nodup (resolves.nodup_keys chained) member]
    exact ⟨rfl, resolves.height_of_mem_rows chained positive member⟩

end Signed

theorem map_key_flatMap_signed {heights : List Height}
    (resolved : ∀ k ∈ heights, ∃ b set, w.Resolves k b set) :
    (heights.flatMap w.signed).map CommitEntry.key =
      (heights.flatMap w.rows).map CommitSignature.key := by
  induction heights with
  | nil => rfl
  | cons k heights ih =>
      obtain ⟨b, set, resolves⟩ := resolved k List.mem_cons_self
      rw [List.flatMap_cons, List.flatMap_cons, List.map_append, List.map_append,
        resolves.map_key_signed, ih fun k' member => resolved k' (List.mem_cons_of_mem _ member)]

theorem mapM_fresh {b : Block} {set : ValidatorSet} {before : List Height}
    (resolves : w.Resolves height b set)
    (resolved : ∀ k ∈ before, ∃ b set, w.Resolves k b set) :
    (w.fresh before height).mapM (set.signature b.lastCommit.height) =
      .ok ((w.rows height).filter fun row => !(before.flatMap w.rows).any (·.key = row.key)) := by
  apply mapM_filter_eq_ok resolves.mapM_signed
  intro e row made
  have key : row.key = e.key := (ValidatorSet.signature_eq_ok made).2.1
  have written : (before.flatMap w.rows).any (·.key = row.key) =
      ((before.flatMap w.rows).map CommitSignature.key).any (· = row.key) := by
    rw [List.any_map]
    rfl
  rw [written, ← map_key_flatMap_signed resolved, List.any_map, key]
  simp only [Function.comp_def, CommitEntry.key_inj]

end World

namespace Indexer

/-- Completeness of commit signatures. Heights are indexed in turn, in any order, with any modules
that remove nothing, by a node whose answers do not change. For a height that was accepted, the
table holds exactly one row for each signed entry of the commit in its block, but for those whose
validator signed at the same time in the commit of a height accepted before. The row has the power
and the priority of the first validator of the set with this address. -/
theorem commit_signatures_complete (ix : Indexer) (retains : ix.registry.Retains) (w : World)
    (chained : w.Chained) (jobs : List Job) (before after : List Height) (height : Height)
    (accepted : (w.still.inTurn ix () jobs).accepted = before ++ height :: after)
    (first : height ∉ before) :
    let stored := (w.still.inTurn ix () jobs).store.tables.commitSignaturesAt (height - 1)
    ∃ b set, w.node (.block height) = .ok b ∧ w.node (.validators height) = .ok set ∧
      (stored.map some).Perm ((w.fresh before height).map fun e =>
        (set.findByAddress e.validatorAddress).map fun v =>
          { validatorAddress := .ofRaw e.validatorAddress, votingPower := v.votingPower
            proposerPriority := v.proposerPriority, height := height - 1
            timestamp := e.timestamp }) ∧
      stored.length = (w.fresh before height).length := by
  intro stored
  have signed : w.Signed (before ++ height :: after)
      (w.still.inTurn ix () jobs).store.tables := by
    rw [← accepted]
    exact Surroundings.inTurn_induction (World.Signed.empty w)
      (fun _ _ _ _ _ held comes => held.step retains chained comes) () jobs
  obtain ⟨positive, b, set, resolves⟩ := signed.resolved height (by simp)
  have earlier : ∀ k ∈ before, ∃ b set, w.Resolves k b set := fun k member =>
    (signed.resolved k (List.mem_append_left _ member)).2
  have made := World.mapM_fresh resolves earlier
  rw [chained.commit height b positive resolves.block] at made
  have rows : stored.Perm
      ((w.rows height).filter fun row => !(before.flatMap w.rows).any (·.key = row.key)) := by
    have distinct : (w.rows height).Nodup :=
      List.Pairwise.of_map _ (fun _ _ differ same => differ (congrArg _ same))
        (resolves.nodup_keys chained)
    apply (List.perm_ext_iff_of_nodup ((Table.nodup_rows _).filter _) (distinct.filter _)).2
    intro row
    refine (signed.mem_commitSignaturesAt_iff chained first).trans ?_
    simp only [List.mem_filter, Bool.not_eq_true', List.any_eq_false, decide_eq_true_eq, ne_eq]
  have perm := rows.map some
  rw [← map_eq_map_of_mapM_eq_ok made fun e row made => (ValidatorSet.signature_eq_ok made).2.2]
    at perm
  refine ⟨b, set, resolves.block, resolves.validators, perm, ?_⟩
  simpa using perm.length_eq

end Indexer

/-- A chain with two validators that sign every block. The clock of the second one stands still. -/
def World.stoppedClock : World where
  node
    | .block height => .ok
      { height, hash := "", chainId := "quiet", proposerAddress := [1]
        timestamp := "2024-01-01T00:00:00Z", txs := []
        lastCommit :=
          ⟨height - 1, [⟨[1], toString height.toNat, some [7]⟩, ⟨[2], "0", some [7]⟩]⟩ }
    | .validators height => .ok ⟨height, [⟨[1], [2], 5, 0⟩, ⟨[2], [3], 4, 1⟩]⟩
    | query => World.quiet.node query
  files := World.quiet.files

theorem World.stoppedClock_chained : World.stoppedClock.Chained where
  block height b answered := by
    cases answered
    rfl
  commit height b _ answered := by
    cases answered
    rfl
  signers height b answered := by
    cases answered
    show [[(1 : UInt8)], [2]].Nodup
    decide

namespace Indexer

def backwards : List Job := [⟨0, .index 3⟩, ⟨0, .index 2⟩]

/-- The commit of height one lacks the second validator, whose signature was there before. -/
theorem commit_signatures_complete_stoppedClock :
    ∃ r : Surroundings.Record Unit, r = World.stoppedClock.still.inTurn quiet () backwards ∧
      quiet.registry.Retains ∧ World.stoppedClock.Chained ∧ r.accepted = [3] ++ 2 :: [] ∧
      (2 : Height) ∉ [(3 : Height)] ∧
      (r.store.tables.commitSignaturesAt (2 - 1)).length =
        (World.stoppedClock.fresh [3] 2).length ∧
      (World.stoppedClock.fresh [3] 2).map (·.validatorAddress) = [[1]] := by
  have accepted : (World.stoppedClock.still.inTurn quiet () backwards).accepted = [3] ++ 2 :: [] :=
    by decide +kernel
  obtain ⟨_, _, _, _, _, length⟩ := commit_signatures_complete quiet quiet_retains .stoppedClock
    World.stoppedClock_chained backwards [3] [] 2 accepted (by decide)
  exact ⟨_, rfl, quiet_retains, World.stoppedClock_chained, accepted, by decide, length,
    by decide +kernel⟩

/-- Both validators signed, and there is one row. -/
theorem commit_signature_lost :
    World.stoppedClock.Chained ∧ quiet.registry.Retains ∧
      (World.stoppedClock.still.inTurn quiet () backwards).accepted = [3, 2] ∧
      (World.stoppedClock.signed 2).length = 2 ∧
      ((World.stoppedClock.still.inTurn quiet () backwards).store.tables.commitSignaturesAt
        1).length = 1 :=
  ⟨World.stoppedClock_chained, quiet_retains, by decide +kernel, by decide +kernel,
    by decide +kernel⟩

end Indexer
end ChainIndexer
