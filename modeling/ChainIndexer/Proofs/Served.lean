import ChainIndexer.Proofs.Isolation
import ChainIndexer.Proofs.Redo
import ChainIndexer.Proofs.Surroundings

/-! Attempts that are served: the store is open and refuses nothing. Such an attempt at a height
that can be resolved writes all of it, and what it writes is known, up to what the modules write
into their own tables. -/
namespace ChainIndexer

/-- Nobody closes the store, and it refuses nothing. The node may say anything. -/
def Contract.served : Contract where
  calls _ c := c ≠ .perform .close
  answers _
    | .perform _, a => ∃ value, a = .ok value
    | _, _ => True

theorem Contract.served_not_refuses : ¬ Contract.served.Refuses := by
  rintro ⟨_, _, _, _, refused⟩
  cases refused

theorem Contract.served_calls {past : History} {op : Operation} (leaves : op ≠ .close) :
    Contract.served.calls past (.perform op) := fun same => leaves (Effect.perform.inj same)

theorem Contract.served_logs (past : History) (line : LogLine) :
    Contract.served.calls past (.log line) := nofun

/-- What was done from one point on to another is as wanted. -/
def History.Did (past : History) (wanted : List Operation → Prop) (later : History) : Prop :=
  ∃ ops, later.performed = past.performed ++ ops ∧ wanted ops

namespace History.Did

variable {past later : History} {wanted : List Operation → Prop}

theorem nothing (none : wanted []) : past.Did wanted past := ⟨[], (List.append_nil _).symm, none⟩

theorem log (h : past.Did wanted later) (line : LogLine) (a : Unit) :
    past.Did wanted (later ++ [⟨.log line, a⟩]) := by
  obtain ⟨ops, performed, held⟩ := h
  refine ⟨ops, ?_, held⟩
  rw [History.performed_append, performed]
  exact List.append_nil _

end History.Did

theorem Attempt.Calls.keeps_served {α : Type} {used : Operation → Bool} {p : Attempt α}
    (calls : p.Calls (Effect.uses used)) (leaves : used .close = false) (past : History) :
    p.Keeps .served (fun _ => past.Did (∀ op ∈ ·, used op = true))
      (fun _ => past.Did (∀ op ∈ ·, used op = true)) past := by
  apply calls.keeps (past.Did (∀ op ∈ ·, used op = true))
  · rintro _ c made rfl
    exact Bool.noConfusion (leaves.symm.trans made)
  · rintro between c a ⟨ops, did, uses⟩ made _
    unfold History.Did
    rw [History.performed_append, did]
    cases c with
    | perform op =>
        cases a with
        | ok value =>
            refine ⟨ops ++ [op], List.append_assoc _ _ _, ?_⟩
            intro op' member
            rcases List.mem_append.1 member with member | member
            · exact uses op' member
            · rw [List.mem_singleton.1 member]
              exact made
        | error f => exact ⟨ops, List.append_nil _, uses⟩
    | _ => exact ⟨ops, List.append_nil _, uses⟩
  · exact .nothing nofun

/-! What modules remove, and when. -/

def Operation.retires : Operation → Bool
  | prune _ | storeLastPruned _ => true
  | _ => false

def PruningConfig.retirements (config : PruningConfig) (height : Height) : List Operation :=
  match config.boundary? height with
  | none => []
  | some boundary => [.prune boundary, .storeLastPruned height]

namespace Module

def retirements (height : Height) : Module → List Operation
  | pruning config => config.retirements height
  | _ => []

variable {m : Module}

theorem retires_of_uses {op : Operation} (other : ∀ config, m ≠ .pruning config)
    (used : m.uses op = true) : op.retires = false := by
  cases m with
  | pruning config => exact absurd rfl (other config)
  | _ => cases op <;> first | rfl | cases used

theorem retirements_eq_nil {height : Height} (other : ∀ config, m ≠ .pruning config) :
    m.retirements height = [] := by
  cases m with
  | pruning config => exact absurd rfl (other config)
  | _ => rfl

/-- What pruning owns, the modules change by pruning only. -/
theorem retires_of_changes {op : Operation} {p : Part}
    (own : ∀ config, (pruning config).owns p = true) (used : m.uses op = true)
    (changes : op.changes p = true) : op.retires = true := by
  cases m <;> cases op <;> first | rfl | exact Bool.noConfusion used |
    (cases p <;> first | exact Bool.noConfusion changes | exact Bool.noConfusion (own {}))

/-- What a module does with a block at a height: its own operations, and what it is to remove. -/
def Handles (m : Module) (height : Height) (ops : List Operation) : Prop :=
  (∀ op ∈ ops, m.uses op = true) ∧ ops.filter Operation.retires = m.retirements height

theorem keeps_retention (config : PruningConfig) (height : Height) (past : History) :
    (Retention.handleBlock config height).Keeps .served
      (fun _ => past.Did ((pruning config).Handles height)) (fun _ _ => False) past := by
  have refuses := Contract.served_not_refuses
  unfold Retention.handleBlock
  split
  · rename_i spared
    apply History.Did.nothing
    simp [Handles, retirements, PruningConfig.retirements, spared]
  · rename_i boundary passed
    rw [Attempt.keeps_bind, Attempt.keeps_within]
    apply (Attempt.keeps_write (Contract.served_calls (by simp))).imp ?_ fun _ _ => refuses
    intro _ between pruned
    apply (Attempt.keeps_write (Contract.served_calls (by simp))).imp ?_ fun _ _ => refuses
    intro _ later noted
    rw [pruned, List.append_assoc] at noted
    refine ⟨_, noted, ?_, ?_⟩
    · simp [uses]
    · simp [retirements, PruningConfig.retirements, passed, Operation.retires]

theorem keeps_handleBlock (m : Module) (data : BlockData) (past : History) :
    (m.handleBlock data).Keeps .served (fun _ => past.Did (m.Handles data.height))
      (fun _ => past.Did (m.Handles data.height)) past := by
  by_cases prunes : ∃ config, m = .pruning config
  · obtain ⟨config, rfl⟩ := prunes
    exact (keeps_retention config data.height past).imp (fun _ _ did => did) fun _ _ => nofun
  · have other : ∀ config, m ≠ .pruning config := fun config same => prunes ⟨config, same⟩
    have did : ∀ later, past.Did (∀ op ∈ ·, m.uses op = true) later →
        past.Did (m.Handles data.height) later := by
      rintro later ⟨ops, performed, used⟩
      refine ⟨ops, performed, used, ?_⟩
      rw [retirements_eq_nil other, List.filter_eq_nil_iff]
      intro op member
      simp [retires_of_uses other (used op member)]
    exact ((m.calls_handleBlock data).keeps_served m.uses_close past).imp
      (fun _ => did) fun _ => did

end Module

namespace Registry

def retirements (r : Registry) (height : Height) : List Operation :=
  r.modules.flatMap (·.retirements height)

theorem retires_of_mem_retirements {r : Registry} {height : Height} {op : Operation}
    (member : op ∈ r.retirements height) : op.retires = true := by
  obtain ⟨m, _, listed⟩ := List.mem_flatMap.1 member
  cases m with
  | pruning config =>
      cases passed : config.boundary? height with
      | none => simp [Module.retirements, PruningConfig.retirements, passed] at listed
      | some boundary =>
          simp only [Module.retirements, PruningConfig.retirements, passed, List.mem_cons,
            List.not_mem_nil, or_false] at listed
          rcases listed with rfl | rfl
          · rfl
          · rfl
  | _ => cases listed

def Handles (r : Registry) (height : Height) (ops : List Operation) : Prop :=
  (∀ op ∈ ops, r.uses op = true) ∧ ops.filter Operation.retires = r.retirements height

theorem keeps_dispatchBlock (r : Registry) (data : BlockData) (past : History) :
    (r.dispatchBlock data).Keeps .served (fun _ => past.Did (r.Handles data.height))
      (fun _ _ => False) past := by
  -- What was removed so far, and what the modules still to be called will remove, is all.
  apply (keeps_dispatch (fun ms => past.Did fun ops => (∀ op ∈ ops, r.uses op = true) ∧
    ops.filter Operation.retires ++ ms.flatMap (·.retirements data.height) =
      r.retirements data.height) ?_ ?_ ?_).imp
  · rintro _ later ⟨ops, performed, used, removed⟩
    exact ⟨ops, performed, used, by simpa using removed⟩
  · exact fun _ _ never => never
  · rintro m member ms between ⟨ops, performed, used, removed⟩
    rw [m.blockHandler?_eq]
    have did : ∀ later, between.Did (m.Handles data.height) later →
        past.Did (fun ops => (∀ op ∈ ops, r.uses op = true) ∧
          ops.filter Operation.retires ++ ms.flatMap (·.retirements data.height) =
            r.retirements data.height) later := by
      rintro later ⟨more, performed', used', removed'⟩
      refine ⟨ops ++ more, ?_, ?_, ?_⟩
      · rw [performed', performed, List.append_assoc]
      · intro op listed
        rcases List.mem_append.1 listed with listed | listed
        · exact used op listed
        · exact List.any_eq_true.2 ⟨m, member, used' op listed⟩
      · rw [← removed, List.flatMap_cons, List.filter_append, removed', List.append_assoc]
    exact (m.keeps_handleBlock data between).imp (fun _ => did) fun _ => did
  · intro ms between line did
    exact ⟨nofun, did.log line⟩
  · exact .nothing ⟨nofun, rfl⟩

end Registry

/-! What is written for a height that is indexed. -/

namespace Tables

def blockHeights (t : Tables) : List Nat := t.blocks.rows.map (·.height.toNat)

/-- After a prune, blocks are found as before, but for those below the boundary. -/
theorem contains_prune (t : Tables) (boundary k : Height) :
    (t.prune boundary).blocks.contains k = true ↔ t.blocks.contains k = true ∧ boundary ≤ k := by
  change ((t.blocks.filter _).get? k).isSome = true ↔ (t.blocks.get? k).isSome = true ∧ _
  rw [Table.get?_filter]
  cases stored : t.blocks.get? k with
  | none => simp
  | some row =>
      have level : row.height = k := (Table.get?_eq_some_iff.1 stored).2
      simp [Option.filter, level, Option.isSome_ite]

theorem contains_saveBlock (t : Tables) (row : BlockRecord) (k : Height) :
    ((Operation.saveBlock row).effect t).blocks.contains k = true ↔
      t.blocks.contains k = true ∨ row.height = k := by
  change ((t.blocks.writeOnce row).get? k).isSome = true ↔ (t.blocks.get? k).isSome = true ∨ _
  rw [Table.get?_writeOnce, Option.isSome_or, Bool.or_eq_true, Option.isSome_ite]

theorem contains_after_retiring {ops : List Operation} (retire : ∀ op ∈ ops, op.retires = true)
    (t : Tables) (k : Height) : (t.after ops).blocks.contains k = true ↔
      t.blocks.contains k = true ∧ ∀ boundary, .prune boundary ∈ ops → boundary ≤ k := by
  induction ops generalizing t with
  | nil => simp
  | cons op ops ih =>
      rw [after_cons, ih fun op member => retire op (List.mem_cons_of_mem _ member)]
      have retires := retire op List.mem_cons_self
      cases op with
      | prune boundary =>
          change (t.prune boundary).blocks.contains k = true ∧ _ ↔ _
          rw [contains_prune]
          simp [and_assoc]
      | storeLastPruned height =>
          change t.blocks.contains k = true ∧ _ ↔ _
          simp
      | _ => cases retires

end Tables

theorem Fetched.precedesModules_of_mem_writes {data : Fetched} {operators : List Operator}
    {signatures : List CommitSignature} {op : Operation}
    (member : op ∈ data.writes operators signatures) : op.precedesModules = true := by
  simp only [writes, Transaction.writes, List.mem_append, List.mem_cons, List.mem_flatMap]
    at member
  rcases member with (rfl | rfl | rfl | none) | ⟨tx, _, rfl | rfl | none⟩
  all_goals first | rfl | cases none

namespace Indexer

open Attempt

/-- The operations that index a height: its own rows, what the modules do, and the block's row. -/
inductive Persists (ix : Indexer) (data : Fetched) (signatures : List CommitSignature) :
    List Operation → Prop
  | intro (served : List Operation) (handles : ix.registry.Handles data.block.height served) :
    Persists ix data signatures
      (data.writes ix.operators signatures ++ served ++ [.saveBlock data.blockRow])

namespace Persists

variable {ix : Indexer} {data : Fetched} {signatures : List CommitSignature}
  {ops : List Operation}

/-- A table that modules only remove from shows what is written for the height itself, and what
is removed in between. -/
theorem part_after {p : Part} (h : ix.Persists data signatures ops)
    (own : ∀ config, (Module.pruning config).owns p = true) (t : Tables) :
    (t.after ops).part p = (t.after ((data.writes ix.operators signatures ++
      ix.registry.retirements data.block.height ++
        [Operation.saveBlock data.blockRow]).filter (·.changes p))).part p := by
  obtain ⟨served, used, removed⟩ := h
  have removed : served.filter (·.changes p) =
      (ix.registry.retirements data.block.height).filter (·.changes p) := by
    rw [← removed, List.filter_filter]
    apply List.filter_congr
    intro op member
    obtain ⟨m, _, uses⟩ := List.any_eq_true.1 (used op member)
    cases changes : op.changes p with
    | true => simp [Module.retires_of_changes own uses changes]
    | false => simp
  rw [← Tables.part_after_filter p (_ ++ _ ++ _), List.filter_append, List.filter_append, removed,
    ← List.filter_append, ← List.filter_append]

theorem part_after_retirements (h : ix.Persists data signatures ops) {p : Part}
    (own : ∀ config, (Module.pruning config).owns p = true)
    (early : ∀ op : Operation, op.precedesModules = true → op.changes p = false) (t : Tables) :
    (t.after ops).part p = (t.after (ix.registry.retirements data.block.height ++
      [Operation.saveBlock data.blockRow])).part p := by
  have none : (data.writes ix.operators signatures).filter (·.changes p) = [] := by
    apply List.filter_eq_nil_iff.2
    intro op member
    simp [early op (Fetched.precedesModules_of_mem_writes member)]
  rw [h.part_after own, List.append_assoc, List.filter_append, none, List.nil_append,
    Tables.part_after_filter]

/-- The blocks are pruned, and then the block at hand is stored. -/
theorem contains_iff (h : ix.Persists data signatures ops) (t : Tables) (k : Height) :
    (t.after ops).blocks.contains k = true ↔
      (t.blocks.contains k = true ∧ ∀ boundary,
        .prune boundary ∈ ix.registry.retirements data.block.height → boundary ≤ k) ∨
      data.block.height = k := by
  have after : (t.after ops).blocks = (t.after (ix.registry.retirements data.block.height ++
      [Operation.saveBlock data.blockRow])).blocks := by
    apply @part_after_retirements _ _ _ _ h .blocks fun _ => rfl
    intro op precedes
    cases op <;> first | rfl | cases precedes
  rw [after, Tables.after_append]
  refine (Tables.contains_saveBlock _ data.blockRow k).trans (or_congr ?_ Iff.rfl)
  exact Tables.contains_after_retiring (fun op => Registry.retires_of_mem_retirements) t k

end Persists

theorem keeps_callModules (ix : Indexer) (height : Height) (data : Fetched) (past : History) :
    (ix.callModules height data).Keeps .served
      (fun _ => past.Did (ix.registry.Handles data.block.height)) (fun _ _ => False) past := by
  unfold callModules
  rw [keeps_bind]
  apply (ix.registry.keeps_dispatchBlock _ past).imp
  · intro failures between did
    split
    · exact ⟨nofun, fun a _ => did.log _ a⟩
    · exact did
  · exact fun _ _ never => never

theorem keeps_persist (ix : Indexer) (worker : Nat) (height : Height) (data : Fetched)
    (signatures : List CommitSignature) (past : History) :
    ({ ix with worker }.persist height data signatures).Keeps .served
      (fun _ => past.Did (ix.Persists data signatures)) (fun _ _ => False) past := by
  have refuses := Contract.served_not_refuses
  unfold persist finish atStage
  rw [keeps_bind, keeps_within]
  apply (keeps_save ?_ Contract.served_logs).imp ?_ fun _ _ => refuses
  · intro later _ op member
    apply Contract.served_calls
    rintro rfl
    cases Fetched.precedesModules_of_mem_writes member
  · intro _ between saved
    rw [keeps_bind]
    apply ({ ix with worker }.keeps_callModules height data between).imp ?_ fun _ _ => id
    rintro _ later ⟨served, called, handles⟩
    rw [keeps_within, keeps_within]
    apply (keeps_write (Contract.served_calls (by simp))).imp ?_ fun _ _ => refuses
    intro _ last stored
    refine ⟨_, ?_, .intro served handles⟩
    rw [stored, called, saved]
    simp only [List.append_assoc]

end Indexer

namespace Surroundings

variable {σ α : Type} {o : Surroundings σ} {s : Store}

theorem run_served {wanted : α → History → Prop} {p : Program effects α} {past : History}
    (kept : p.Keeps .served wanted past) (m : σ) (opened : s.closed = false) :
    ∃ value m' later, Program.run (I := effects) o.handle p (m, s) =
        (value, m', ⟨s.tables.after (History.performed later), false⟩) ∧
      wanted value (past ++ later) := by
  induction p generalizing m s past with
  | done value =>
      obtain ⟨tables, closed⟩ := s
      cases opened
      exact ⟨value, m, [], rfl, (List.append_nil past).symm ▸ kept⟩
  | call c next ih =>
      cases c with
      | ask q =>
          obtain ⟨value, m', later, ran, held⟩ := ih _ (kept.2 (o.node q m).1 trivial)
            (o.node q m).2 opened
          exact ⟨value, m', ⟨.ask q, _⟩ :: later, ran, by simpa using held⟩
      | load path =>
          obtain ⟨value, m', later, ran, held⟩ := ih _ (kept.2 (o.files path m).1 trivial)
            (o.files path m).2 opened
          exact ⟨value, m', ⟨.load path, _⟩ :: later, ran, by simpa using held⟩
      | log line =>
          obtain ⟨value, m', later, ran, held⟩ := ih _ (kept.2 () trivial) m opened
          exact ⟨value, m', ⟨.log line, ()⟩ :: later, ran, by simpa using held⟩
      | perform op =>
          have leaves : op ≠ .close := fun same => kept.1 (congrArg Effect.perform same)
          have performed := Store.perform_opened opened leaves
          have answered : ∃ value, (s.perform op).1 = .ok value := ⟨_, congrArg Prod.fst performed⟩
          obtain ⟨value, m', later, ran, held⟩ := ih _ (kept.2 (s.perform op).1 answered) m
            (s := (s.perform op).2) (congrArg (·.2.closed) performed)
          refine ⟨value, m', ⟨.perform op, _⟩ :: later, ran.trans ?_, by simpa using held⟩
          rw [performed]
          rfl

/-- What an attempt does to an open store, it does with the operations that it uses. -/
theorem run_of_calls {used : Operation → Bool} {p : Attempt α}
    (calls : p.Calls (Effect.uses used)) (leaves : used .close = false) (m : σ)
    (opened : s.closed = false) :
    ∃ ended m' ops, o.run p (m, s) = (ended, m', ⟨s.tables.after ops, false⟩) ∧
      ∀ op ∈ ops, used op = true := by
  obtain ⟨ended, m', later, ran, held⟩ := run_served (calls.keeps_served leaves []) m opened
  have did : History.Did [] (∀ op ∈ ·, used op = true) later := by
    cases ended <;> exact held
  obtain ⟨ops, performed, uses⟩ := did
  obtain rfl : History.performed later = ops := performed
  exact ⟨ended, m', _, ran, uses⟩

/-- What follows the resolution of a height cannot fail any more. -/
theorem run_persist (ix : Indexer) (worker : Nat) (height : Height) (data : Fetched)
    (signatures : List CommitSignature) (m : σ) (opened : s.closed = false) :
    ∃ m' ops, o.run ({ ix with worker }.persist height data signatures) (m, s) =
        (.ok (), m', ⟨s.tables.after ops, false⟩) ∧ ix.Persists data signatures ops := by
  obtain ⟨ended, m', later, ran, held⟩ := run_served (o := o)
    (ix.keeps_persist worker height data signatures []) m opened
  cases ended with
  | error f => exact held.elim
  | ok value =>
      obtain ⟨ops, performed, persists⟩ := held
      obtain rfl : History.performed later = ops := performed
      exact ⟨m', _, ran, persists⟩

end Surroundings
end ChainIndexer
