import ChainIndexer.Proofs.InTurn

/-! The window of retention. Blocks are removed at the heights that the interval divides, once the
chain is old enough, and always before the block at hand is stored. So the newest blocks are there
whatever the order in which heights were indexed; and after the first heights in their order, what
is there is a range of heights that ends with the last. -/
namespace ChainIndexer

/-- Division as the machine has it. There is no remainder by zero. -/
def remainder? (a b : UInt64) : Option UInt64 := if b = 0 then none else some (a % b)

/-- Subtraction as the machine has it. There is nothing below zero. -/
def difference? (a b : UInt64) : Option UInt64 := if b ≤ a then some (a - b) else none

namespace PruningConfig

variable {config : PruningConfig}

/-- The boundary at a height, calculated as the machine does, step by step. -/
def checkedBoundary (config : PruningConfig) (height : Height) : Option (Option Height) := do
  if config.keepRecent = 0 ∨ config.interval = 0 then return none
  let rest ← remainder? height config.interval
  if rest ≠ 0 ∨ height ≤ config.keepRecent then return none
  return some (← difference? height config.keepRecent)

theorem checkedBoundary_eq (config : PruningConfig) (height : Height) :
    config.checkedBoundary height = some (config.boundary? height) := by
  unfold checkedBoundary boundary?
  split
  · rfl
  · rename_i enabled
    have divides : remainder? height config.interval = some (height % config.interval) :=
      if_neg fun zero => enabled (.inr zero)
    simp only [divides, Option.bind_eq_bind, Option.bind_some]
    split
    · rfl
    · rename_i passed
      have old : config.keepRecent ≤ height :=
        UInt64.le_of_lt (UInt64.not_le.1 fun young => passed (.inr young))
      simp [difference?, old]

/-- Heights at which blocks are removed. -/
def Acts (config : PruningConfig) (height : Nat) : Prop :=
  config.interval.toNat ∣ height ∧ config.keepRecent.toNat < height

/-- The last of these heights among the first ones. -/
structure ActsLast (config : PruningConfig) (n w : Nat) : Prop where
  acts : config.Acts w
  le : w ≤ n
  greatest : ∀ v, config.Acts v → v ≤ n → v ≤ w

theorem boundary?_eq_some_iff (keeps : config.keepRecent ≠ 0) (acts : config.interval ≠ 0)
    {height boundary : Height} : config.boundary? height = some boundary ↔
      config.Acts height.toNat ∧
        boundary.toNat + config.keepRecent.toNat = height.toNat := by
  have divides : height % config.interval = 0 ↔ config.interval.toNat ∣ height.toNat := by
    rw [← UInt64.toNat_inj, UInt64.toNat_mod, Nat.dvd_iff_mod_eq_zero]
    rfl
  unfold boundary? Acts
  rw [if_neg (not_or.2 ⟨keeps, acts⟩)]
  split
  · rename_i passed
    have never : ¬ (config.interval.toNat ∣ height.toNat ∧
        config.keepRecent.toNat < height.toNat) := by
      rintro ⟨divided, old⟩
      rcases passed with rest | young
      · exact rest (divides.2 divided)
      · exact Nat.not_lt.2 (UInt64.le_iff_toNat_le.1 young) old
    simp [never]
  · rename_i passed
    obtain ⟨divided, old⟩ := not_or.1 passed
    have old : config.keepRecent.toNat < height.toNat :=
      UInt64.lt_iff_toNat_lt.1 (UInt64.not_le.1 old)
    have difference : (height - config.keepRecent).toNat = height.toNat - config.keepRecent.toNat :=
      UInt64.toNat_sub_of_le _ _ (UInt64.le_iff_toNat_le.2 (Nat.le_of_lt old))
    rw [Option.some.injEq, ← UInt64.toNat_inj, difference]
    have divided := divides.1 (Classical.not_not.1 divided)
    omega

theorem boundary?_eq_none_iff (keeps : config.keepRecent ≠ 0) (acts : config.interval ≠ 0)
    {height : Height} : config.boundary? height = none ↔ ¬ config.Acts height.toNat := by
  rw [Option.eq_none_iff_forall_ne_some]
  constructor
  · intro none act
    apply none (height - config.keepRecent)
    rw [boundary?_eq_some_iff keeps acts, UInt64.toNat_sub_of_le]
    · exact ⟨act, Nat.sub_add_cancel (Nat.le_of_lt act.2)⟩
    · exact UInt64.le_iff_toNat_le.2 (Nat.le_of_lt act.2)
  · intro idle boundary passed
    exact idle ((boundary?_eq_some_iff keeps acts).1 passed).1

theorem ActsLast.unique {n v w : Nat} (h : config.ActsLast n v) (h' : config.ActsLast n w) :
    v = w :=
  Nat.le_antisymm (h'.greatest v h.acts h.le) (h.greatest w h'.acts h'.le)

theorem actsLast_succ_iff_of_acts {n w : Nat} (acts : config.Acts (n + 1)) :
    config.ActsLast (n + 1) w ↔ w = n + 1 := by
  constructor
  · intro last
    exact Nat.le_antisymm last.le (last.greatest _ acts (Nat.le_refl _))
  · rintro rfl
    exact ⟨acts, Nat.le_refl _, fun _ _ le => le⟩

theorem actsLast_succ_iff_of_idle {n w : Nat} (idle : ¬ config.Acts (n + 1)) :
    config.ActsLast (n + 1) w ↔ config.ActsLast n w := by
  have earlier {v : Nat} (acts : config.Acts v) (le : v ≤ n + 1) : v ≤ n := by
    have : v ≠ n + 1 := fun same => idle (same ▸ acts)
    omega
  constructor
  · intro last
    exact ⟨last.acts, earlier last.acts last.le,
      fun v acts le => last.greatest v acts (Nat.le_succ_of_le le)⟩
  · intro last
    exact ⟨last.acts, Nat.le_succ_of_le last.le,
      fun v acts le => last.greatest v acts (earlier acts le)⟩

theorem actsLast_or_none (config : PruningConfig) (n : Nat) :
    (∃ w, config.ActsLast n w) ∨ ∀ v ≤ n, ¬ config.Acts v := by
  by_cases acted : ∃ v ≤ n, config.Acts v
  · refine .inl ?_
    induction n with
    | zero =>
        obtain ⟨v, le, acts⟩ := acted
        exact absurd acts.2 (by omega)
    | succ n ih =>
        by_cases acts : config.Acts (n + 1)
        · exact ⟨n + 1, (actsLast_succ_iff_of_acts acts).2 rfl⟩
        · simp only [actsLast_succ_iff_of_idle acts]
          obtain ⟨v, le, act⟩ := acted
          have : v ≠ n + 1 := fun same => acts (same ▸ act)
          exact ih ⟨v, by omega, act⟩
  · exact .inr fun v le acts => acted ⟨v, le, acts⟩

/-- Blocks are removed at least once in an interval, once the chain is old enough. -/
theorem ActsLast.lt_add {n w : Nat} (h : config.ActsLast n w) (acts : config.interval ≠ 0) :
    n < w + config.interval.toNat := by
  have positive : 0 < config.interval.toNat :=
    Nat.pos_of_ne_zero fun zero => acts (UInt64.toNat_inj.1 zero)
  by_cases later : w + config.interval.toNat ≤ n
  · have act : config.Acts (w + config.interval.toNat) :=
      ⟨Nat.dvd_add h.acts.1 (Nat.dvd_refl _), Nat.lt_add_right _ h.acts.2⟩
    have := h.greatest _ act later
    omega
  · exact Nat.not_le.1 later

theorem le_of_never_acts {n : Nat} (acts : config.interval ≠ 0)
    (never : ∀ v ≤ n, ¬ config.Acts v) : n ≤ config.keepRecent.toNat + config.interval.toNat := by
  have positive : 0 < config.interval.toNat :=
    Nat.pos_of_ne_zero fun zero => acts (UInt64.toNat_inj.1 zero)
  -- The first height that is old enough is no more than an interval away.
  let first := config.interval.toNat * (config.keepRecent.toNat / config.interval.toNat + 1)
  have old : config.keepRecent.toNat < first := Nat.lt_mul_div_succ _ positive
  have near : first ≤ config.keepRecent.toNat + config.interval.toNat := by
    have := Nat.mul_div_le config.keepRecent.toNat config.interval.toNat
    simp only [first, Nat.mul_add, Nat.mul_one]
    omega
  by_cases reached : first ≤ n
  · exact absurd ⟨Nat.dvd_mul_right _ _, old⟩ (never first reached)
  · omega

end PruningConfig

/-- With no module listed twice, pruning is what the one module does. -/
theorem Registry.retirements_eq {r : Registry} {config : PruningConfig} (unique : r.names.Nodup)
    (prunes : .pruning config ∈ r.modules) (height : Height) :
    r.retirements height = config.retirements height := by
  obtain ⟨modules⟩ := r
  unfold retirements
  unfold names at unique
  simp only at prunes unique ⊢
  induction modules with
  | nil => cases prunes
  | cons m ms ih =>
      rw [List.map_cons, List.nodup_cons] at unique
      rw [List.flatMap_cons]
      rcases List.mem_cons.1 prunes with rfl | later
      · have others : ms.flatMap (·.retirements height) = [] := by
          apply List.flatMap_eq_nil_iff.2
          intro m member
          apply Module.retirements_eq_nil
          rintro other rfl
          exact unique.1 (List.mem_map.2 ⟨_, member, rfl⟩)
        rw [others, List.append_nil]
        rfl
      · have other : m.retirements height = [] := by
          apply Module.retirements_eq_nil
          rintro other rfl
          exact unique.1 (List.mem_map.2 ⟨_, later, rfl⟩)
        rw [other, List.nil_append]
        exact ih unique.2 later

theorem PruningConfig.prune_mem_retirements {config : PruningConfig} {height boundary : Height} :
    .prune boundary ∈ config.retirements height ↔ config.boundary? height = some boundary := by
  unfold retirements
  cases config.boundary? height with
  | none => simp
  | some passed => simp [eq_comm]

namespace Indexer.Persists

variable {ix : Indexer} {config : PruningConfig} {data : Fetched}
  {signatures : List CommitSignature} {ops : List Operation}

theorem lastPruned_eq (h : ix.Persists data signatures ops)
    (same : ix.registry.retirements data.block.height = config.retirements data.block.height)
    (t : Tables) : (t.after ops).lastPruned =
      match config.boundary? data.block.height with
      | none => t.lastPruned
      | some _ => latest id data.block.height t.lastPruned := by
  have after : (t.after ops).lastPruned = (t.after (config.retirements data.block.height ++
      [Operation.saveBlock data.blockRow])).lastPruned := by
    rw [← same]
    apply @part_after_retirements _ _ _ _ h .lastPruned fun _ => rfl
    intro op precedes
    cases op <;> first | rfl | cases precedes
  rw [after]
  unfold PruningConfig.retirements
  cases config.boundary? data.block.height <;> rfl

end Indexer.Persists

/-- What is there after the first heights in their order. -/
structure PruningConfig.Window (config : PruningConfig) (n : Nat) (t : Tables) : Prop where
  contains : ∀ k : Height, t.blocks.contains k = true ↔ 1 ≤ k.toNat ∧ k.toNat ≤ n ∧
    ∀ w, config.ActsLast n w → w ≤ k.toNat + config.keepRecent.toNat
  lastPruned : ∀ w : Height, t.lastPruned = some w ↔ config.ActsLast n w.toNat

namespace PruningConfig.Window

variable {config : PruningConfig} {t u : Tables} {n : Nat}

theorem empty (config : PruningConfig) : config.Window 0 {} where
  contains k := by
    constructor
    · intro stored
      cases stored
    · rintro ⟨positive, zero, _⟩
      omega
  lastPruned w := by
    constructor
    · intro noted
      cases noted
    · intro last
      have := last.acts.2
      have := last.le
      omega

theorem le_of_ne_succ {height k : Height} (level : height.toNat = n + 1) (other : height ≠ k)
    (le : k.toNat ≤ n + 1) : k.toNat ≤ n := by
  have : height.toNat ≠ k.toNat := fun same => other (UInt64.toNat_inj.1 same)
  omega

theorem succ_of_idle {height : Height} (level : height.toNat = n + 1) (h : config.Window n t)
    (idle : ¬ config.Acts height.toNat)
    (blocks : ∀ k, u.blocks.contains k = true ↔ t.blocks.contains k = true ∨ height = k)
    (note : u.lastPruned = t.lastPruned) : config.Window (n + 1) u := by
  rw [level] at idle
  constructor
  · intro k
    rw [blocks, h.contains]
    simp only [actsLast_succ_iff_of_idle idle]
    constructor
    · rintro (⟨positive, le, kept⟩ | rfl)
      · exact ⟨positive, Nat.le_succ_of_le le, kept⟩
      · refine ⟨by omega, by omega, ?_⟩
        intro w last
        have := last.le
        omega
    · rintro ⟨positive, le, kept⟩
      by_cases same : height = k
      · exact .inr same
      · exact .inl ⟨positive, le_of_ne_succ level same le, kept⟩
  · intro w
    rw [note, h.lastPruned, actsLast_succ_iff_of_idle idle]

theorem succ_of_acts {height : Height} (level : height.toNat = n + 1) (h : config.Window n t)
    (acts : config.Acts height.toNat)
    (blocks : ∀ k, u.blocks.contains k = true ↔ (t.blocks.contains k = true ∧
      height.toNat ≤ k.toNat + config.keepRecent.toNat) ∨ height = k)
    (note : u.lastPruned = latest id height t.lastPruned) : config.Window (n + 1) u := by
  rw [level] at acts
  constructor
  · intro k
    rw [blocks, h.contains]
    simp only [actsLast_succ_iff_of_acts acts, forall_eq]
    constructor
    · rintro (⟨⟨positive, le, _⟩, above⟩ | rfl)
      · exact ⟨positive, Nat.le_succ_of_le le, by omega⟩
      · exact ⟨by omega, by omega, by omega⟩
    · rintro ⟨positive, le, kept⟩
      by_cases same : height = k
      · exact .inr same
      · refine .inl ⟨⟨positive, le_of_ne_succ level same le, ?_⟩, by omega⟩
        intro w last
        have := last.le
        omega
  · intro w
    have newest : latest id height t.lastPruned = some height := by
      cases noted : t.lastPruned with
      | none => rfl
      | some w =>
          have := ((h.lastPruned w).1 noted).le
          have later : w ≤ height := UInt64.le_iff_toNat_le.2 (by omega)
          simp [latest, upToDate, later]
    rw [note, newest, actsLast_succ_iff_of_acts acts, ← level, Option.some.injEq,
      ← UInt64.toNat_inj]
    exact eq_comm

theorem succ (keeps : config.keepRecent ≠ 0) (acts : config.interval ≠ 0) {ix : Indexer}
    {data : Fetched} {signatures : List CommitSignature} {ops : List Operation}
    (persists : ix.Persists data signatures ops)
    (same : ix.registry.retirements data.block.height = config.retirements data.block.height)
    (level : data.block.height.toNat = n + 1) (h : config.Window n t) :
    config.Window (n + 1) (t.after ops) := by
  have blocks := persists.contains_iff t
  have note := persists.lastPruned_eq same t
  simp only [same, prune_mem_retirements] at blocks
  cases passed : config.boundary? data.block.height with
  | none =>
      simp only [passed] at blocks note
      apply h.succ_of_idle level ((boundary?_eq_none_iff keeps acts).1 passed) ?_ note
      simpa using blocks
  | some boundary =>
      obtain ⟨act, difference⟩ := (boundary?_eq_some_iff keeps acts).1 passed
      simp only [passed] at blocks note
      apply h.succ_of_acts level act ?_ note
      intro k
      have kept : boundary ≤ k ↔
          data.block.height.toNat ≤ k.toNat + config.keepRecent.toNat := by
        rw [UInt64.le_iff_toNat_le]
        omega
      simp [blocks, kept]

end PruningConfig.Window

theorem Tables.blockHeights_eq_range' {t : Tables} {first n : Nat} (small : n < UInt64.size)
    (stored : ∀ k : Height, t.blocks.contains k = true ↔ first ≤ k.toNat ∧ k.toNat ≤ n) :
    t.blockHeights = List.range' first (n + 1 - first) := by
  have ascending : t.blockHeights.Pairwise (· < ·) := by
    apply List.pairwise_map.2
    apply t.blocks.ascending.imp
    intro a b lt
    exact UInt64.lt_iff_toNat_lt.1 (Std.compare_eq_lt.1 lt)
  have distinct {l : List Nat} (h : l.Pairwise (· < ·)) : l.Nodup := h.imp Nat.ne_of_lt
  have same : ∀ v, v ∈ t.blockHeights ↔ v ∈ List.range' first (n + 1 - first) := by
    intro v
    rw [List.mem_range'_1, blockHeights, List.mem_map]
    constructor
    · rintro ⟨row, listed, rfl⟩
      have := (stored row.height).1 (Table.contains_iff.2 ⟨row, listed, rfl⟩)
      omega
    · rintro ⟨from_first, below⟩
      have level : (UInt64.ofNat v).toNat = v := UInt64.toNat_ofNat_of_lt' (by omega)
      obtain ⟨row, listed, same⟩ := Table.contains_iff.1 ((stored (.ofNat v)).2 (by omega))
      exact ⟨row, listed, by rw [same, level]⟩
  apply List.Perm.eq_of_pairwise _ ascending List.pairwise_lt_range'
  · exact (List.perm_ext_iff_of_nodup (distinct ascending)
      (distinct List.pairwise_lt_range')).2 same
  · intro a b _ _ lt gt
    exact absurd gt (Nat.lt_asymm lt)

namespace PruningConfig.Window

variable {config : PruningConfig} {t : Tables} {n w : Nat}

theorem blockHeights_of_last (h : config.Window n t) (small : n < UInt64.size)
    (last : config.ActsLast n w) : t.blockHeights =
      List.range' (max 1 (w - config.keepRecent.toNat))
        (n + 1 - max 1 (w - config.keepRecent.toNat)) := by
  apply Tables.blockHeights_eq_range' small
  intro k
  rw [h.contains]
  constructor
  · rintro ⟨positive, le, kept⟩
    have := kept w last
    omega
  · rintro ⟨from_first, le⟩
    refine ⟨by omega, le, ?_⟩
    intro v last'
    have := last'.unique last
    omega

theorem blockHeights_of_never (h : config.Window n t) (small : n < UInt64.size)
    (never : ∀ v ≤ n, ¬ config.Acts v) : t.blockHeights = List.range' 1 n := by
  apply Tables.blockHeights_eq_range' small
  intro k
  rw [h.contains]
  constructor
  · rintro ⟨positive, le, _⟩
    exact ⟨positive, le⟩
  · rintro ⟨positive, le⟩
    exact ⟨positive, le, fun v last => absurd last.acts (never v last.le)⟩

theorem lastPruned_of_last (h : config.Window n t) (small : n < UInt64.size)
    (last : config.ActsLast n w) : ∃ v : Height, v.toNat = w ∧ t.lastPruned = some v := by
  have level : (UInt64.ofNat w).toNat = w :=
    UInt64.toNat_ofNat_of_lt' (Nat.lt_of_le_of_lt last.le small)
  exact ⟨.ofNat w, level, (h.lastPruned _).2 (level.symm ▸ last)⟩

theorem lastPruned_of_never (h : config.Window n t) (never : ∀ v ≤ n, ¬ config.Acts v) :
    t.lastPruned = none := by
  apply Option.eq_none_iff_forall_ne_some.2
  intro v noted
  have last := (h.lastPruned v).1 noted
  exact never _ last.le last.acts

theorem size_le (h : config.Window n t) (acts : config.interval ≠ 0) (small : n < UInt64.size) :
    t.blocks.size ≤ config.keepRecent.toNat + config.interval.toNat := by
  have size : t.blocks.size = t.blockHeights.length := (List.length_map _).symm
  rcases config.actsLast_or_none n with ⟨w, last⟩ | never
  · have := last.lt_add acts
    rw [size, h.blockHeights_of_last small last, List.length_range']
    omega
  · rw [size, h.blockHeights_of_never small never, List.length_range']
    exact le_of_never_acts acts never

end PruningConfig.Window

theorem range'_eq_concat {l : List Nat} {v n : Nat} (h : l ++ [v] = List.range' 1 n) :
    ∃ k, n = k + 1 ∧ l = List.range' 1 k ∧ v = k + 1 := by
  cases n with
  | zero => simp at h
  | succ k =>
      rw [List.range'_concat] at h
      obtain ⟨rfl, same⟩ := List.append_inj' h rfl
      refine ⟨k, rfl, rfl, ?_⟩
      have := List.singleton_inj.1 same
      omega

theorem lt_size_of_range' {heights : List Height} {n : Nat}
    (order : heights.map UInt64.toNat = List.range' 1 n) : n < UInt64.size := by
  cases n with
  | zero => decide
  | succ n =>
      have last : n + 1 ∈ heights.map UInt64.toNat := by
        rw [order, List.mem_range'_1]
        omega
      obtain ⟨height, _, level⟩ := List.mem_map.1 last
      rw [← level]
      exact height.toNat_lt_size

/-- Any node that answers with blocks of the heights that it is asked for. -/
def Surroundings.Truthful {σ : Type} (o : Surroundings σ) : Prop :=
  ∀ m height b, (o.node (.block height) m).1 = .ok b → b.height = height

namespace Indexer

open PruningConfig

/-- What is known of the blocks while heights are accepted. -/
structure Retained (config : PruningConfig) (accepted : List Height) (t : Tables) : Prop where
  newest : ∀ h ∈ accepted, (∀ g ∈ accepted, g.toNat ≤ h.toNat + config.keepRecent.toNat) →
    t.blocks.contains h = true
  inOrder : ∀ n, accepted.map UInt64.toNat = List.range' 1 n → config.Window n t

variable {σ : Type} {o : Surroundings σ} {ix : Indexer} {config : PruningConfig}

theorem Retained.step (keeps : config.keepRecent ≠ 0) (acts : config.interval ≠ 0)
    (unique : ix.registry.names.Nodup) (prunes : .pruning config ∈ ix.registry.modules)
    (truthful : o.Truthful) {accepted : List Height} {t u : Tables} {m : σ}
    {height? : Option Height} (h : Retained config accepted t)
    (comes : o.Comes ix m t height? u) : Retained config (accepted ++ height?.toList) u := by
  cases comes with
  | aside ops sidestep =>
      have blocks : (t.after ops).blocks = t.blocks :=
        @Tables.part_after_sidesteps .blocks rfl ops sidestep t
      have note : (t.after ops).lastPruned = t.lastPruned :=
        @Tables.part_after_sidesteps .lastPruned rfl ops sidestep t
      rw [Option.toList_none, List.append_nil]
      constructor
      · rw [blocks]
        exact h.newest
      · intro n order
        have window := h.inOrder n order
        constructor
        · rw [blocks]
          exact window.contains
        · rw [note]
          exact window.lastPruned
  | spared height positive stored =>
      constructor
      · intro k listed near
        rcases List.mem_append.1 listed with earlier | last
        · exact h.newest k earlier fun g member => near g (List.mem_append_left _ member)
        · rw [List.mem_singleton.1 last]
          exact stored
      · intro n order
        rw [List.map_append] at order
        obtain ⟨k, rfl, order, level⟩ := range'_eq_concat order
        -- The next height in order cannot be stored yet.
        have := (((h.inOrder k order).contains height).1 stored).2.1
        omega
  | indexed height data signatures ops positive fetched resolved persists =>
      obtain rfl : data.block.height = height :=
        truthful m height _ (Surroundings.answered_of_fetch fetched).1
      have same := Registry.retirements_eq unique prunes data.block.height
      constructor
      · intro k listed near
        apply (persists.contains_iff t k).2
        rcases List.mem_append.1 listed with earlier | last
        · left
          constructor
          · exact h.newest k earlier fun g member => near g (List.mem_append_left _ member)
          · intro boundary removed
            rw [same, prune_mem_retirements, boundary?_eq_some_iff keeps acts] at removed
            have := near data.block.height (List.mem_append_right _ (List.mem_singleton_self _))
            exact UInt64.le_iff_toNat_le.2 (by omega)
        · exact .inr (List.mem_singleton.1 last).symm
      · intro n order
        rw [List.map_append] at order
        obtain ⟨k, rfl, order, level⟩ := range'_eq_concat order
        exact (h.inOrder k order).succ keeps acts persists same level

/-- The window of retention. Heights are indexed in turn, in any order, with any modules besides
pruning. Every accepted height that is not further from the greatest one than the heights to keep
has its block. If the first heights were accepted in their order, the blocks that are there are
those from the heights to keep below the last removal up to the last height, no more than the
heights to keep and an interval, and the last removal is noted. Nothing underflows, and nothing is
divided by zero. -/
theorem retention_window (ix : Indexer) (config : PruningConfig) (keeps : config.keepRecent ≠ 0)
    (acts : config.interval ≠ 0) (unique : ix.registry.names.Nodup)
    (prunes : .pruning config ∈ ix.registry.modules) (o : Surroundings σ) (truthful : o.Truthful)
    (m : σ) (jobs : List Job) :
    let r := o.inTurn ix m jobs
    (∀ top ∈ r.accepted, (∀ g ∈ r.accepted, g ≤ top) →
      ∀ h ∈ r.accepted, top.toNat ≤ h.toNat + config.keepRecent.toNat →
        r.store.tables.blocks.contains h = true) ∧
    (∀ n, r.accepted.map UInt64.toNat = List.range' 1 n →
      ((∃ w : Height, config.ActsLast n w.toNat ∧ r.store.tables.lastPruned = some w ∧
          let first := max 1 (w.toNat - config.keepRecent.toNat)
          r.store.tables.blockHeights = List.range' first (n + 1 - first)) ∨
        (∀ v ≤ n, ¬ config.Acts v) ∧ r.store.tables.lastPruned = none ∧
          r.store.tables.blockHeights = List.range' 1 n) ∧
      r.store.tables.blocks.size ≤ config.keepRecent.toNat + config.interval.toNat) ∧
    ∀ height, config.checkedBoundary height = some (config.boundary? height) := by
  intro r
  have start : Retained config [] {} := by
    refine ⟨nofun, ?_⟩
    intro n order
    obtain rfl : n = 0 := List.range'_eq_nil_iff.1 order.symm
    exact .empty config
  have retained : Retained config r.accepted r.store.tables :=
    Surroundings.inTurn_induction start
      (fun _ _ _ _ _ held comes => held.step keeps acts unique prunes truthful comes) m jobs
  refine ⟨?_, ?_, config.checkedBoundary_eq⟩
  · intro top _ greatest h listed near
    apply retained.newest h listed
    intro g member
    exact Nat.le_trans (UInt64.le_iff_toNat_le.1 (greatest g member)) near
  · intro n order
    have window := retained.inOrder n order
    have small := lt_size_of_range' order
    refine ⟨?_, window.size_le acts small⟩
    rcases config.actsLast_or_none n with ⟨w, last⟩ | never
    · obtain ⟨v, rfl, noted⟩ := window.lastPruned_of_last small last
      exact .inl ⟨v, last, noted, window.blockHeights_of_last small last⟩
    · exact .inr ⟨never, window.lastPruned_of_never never,
        window.blockHeights_of_never small never⟩

/-- An indexer that removes blocks at every third height, and keeps two. -/
def thrifty : Indexer where
  registry := ⟨[.staking, .pruning { keepRecent := 2, interval := 3 }, .mint]⟩
  operators := quiet.operators

def firstSeven : List Job := [1, 2, 3, 4, 5, 6, 7].map fun height => ⟨0, .index height⟩

theorem retention_window_quiet :
    ∃ r : Surroundings.Record Unit, r = World.quiet.still.inTurn thrifty () firstSeven ∧
      (2 : Height) ≠ 0 ∧ (3 : Height) ≠ 0 ∧ thrifty.registry.names.Nodup ∧
      .pruning { keepRecent := 2, interval := 3 } ∈ thrifty.registry.modules ∧
      World.quiet.still.Truthful ∧ r.accepted = [1, 2, 3, 4, 5, 6, 7] ∧
      r.store.tables.blockHeights = [4, 5, 6, 7] ∧ r.store.tables.lastPruned = some 6 ∧
      (∀ h ∈ r.accepted, (7 : Height).toNat ≤ h.toNat + 2 →
        r.store.tables.blocks.contains h = true) ∧ r.store.tables.blocks.size ≤ 2 + 3 := by
  have truthful : World.quiet.still.Truthful := by
    intro m height b answered
    cases answered
    rfl
  have accepted : (World.quiet.still.inTurn thrifty () firstSeven).accepted =
      [1, 2, 3, 4, 5, 6, 7] := by decide +kernel
  have prunes : .pruning { keepRecent := 2, interval := 3 } ∈ thrifty.registry.modules :=
    .tail _ (.head _)
  obtain ⟨newest, inOrder, _⟩ := retention_window thrifty { keepRecent := 2, interval := 3 }
    (by decide) (by decide) (by decide) prunes World.quiet.still truthful () firstSeven
  refine ⟨_, rfl, by decide, by decide, by decide, prunes, truthful, accepted, by decide +kernel,
    by decide +kernel, ?_, ?_⟩
  · apply newest 7
    · rw [accepted]
      decide
    · rw [accepted]
      simp
  · apply (inOrder 7 _).2
    rw [accepted]
    decide

end Indexer
end ChainIndexer
