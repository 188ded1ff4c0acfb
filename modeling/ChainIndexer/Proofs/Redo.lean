import ChainIndexer.Proofs.Nearby
import ChainIndexer.Proofs.Store.Replay
import ChainIndexer.Proofs.Writes

/-! Doing a height again. What attempts at a height left behind, cut short or not, changes nothing
of what a later attempt at it writes, and so of how it leaves the tables. -/
namespace ChainIndexer

variable {w : World} {height : Height} {row : BlockRecord}

/-- What is written for a height before the modules are called. -/
def Operation.precedesModules : Operation → Bool
  | saveValidators _ | saveDescriptions _ | saveCommitSignatures _ | saveTx _
  | saveMessages _ => true
  | _ => false

/-- What an attempt at a height may do to the store, if its block has a certain row. -/
inductive Operation.Serves (row : BlockRecord) (op : Operation) : Prop
  | before (precedes : op.precedesModules = true)
  | during (serves : op.servesModules = true)
  | last (same : op = .saveBlock row)

/-- Operations that neither remove rows nor close the store. -/
def Operation.retains : Operation → Bool
  | prune _ | close => false
  | _ => true

namespace Operation.Serves

theorem genesisRow? {op : Operation} (h : op.Serves row) : op.genesisRow? = none := by
  cases h with
  | before precedes => cases op <;> first | rfl | cases precedes
  | during serves => cases op <;> first | rfl | cases serves
  | last same => cases same; rfl

theorem blocks {op : Operation} (h : op.Serves row) (t : Tables) :
    (op.effect t).blocks = t.blocks ∨ (op.effect t).blocks = t.blocks.writeOnce row := by
  cases h with
  | before precedes => cases op <;> first | exact .inl rfl | cases precedes
  | during serves => cases op <;> first | exact .inl rfl | cases serves
  | last same =>
      rw [same]
      exact .inr rfl

end Operation.Serves

theorem Table.writeOnce_writeOnce {ρ κ : Type} [Ord κ] [Std.TransOrd κ] [Std.LawfulEqOrd κ]
    [DecidableEq κ] {key : ρ → κ} (row : ρ) (t : Table key) :
    (t.writeOnce row).writeOnce row = t.writeOnce row := by
  refine ext_get? fun k => ?_
  rw [get?_writeOnce, get?_writeOnce, Option.or_assoc, Option.or_self]

namespace Tables

theorem genesis_after_serves {ops : List Operation} (serve : ∀ op ∈ ops, op.Serves row)
    (t : Tables) : (t.after ops).genesis = t.genesis := by
  have none : ops.filterMap Operation.genesisRow? = [] :=
    List.filterMap_eq_nil_iff.2 fun op member => (serve op member).genesisRow?
  rw [genesis_after, none]
  rfl

theorem blocks_after_precedes {ops : List Operation}
    (early : ∀ op ∈ ops, op.precedesModules = true) (t : Tables) :
    (t.after ops).blocks = t.blocks := by
  induction ops generalizing t with
  | nil => rfl
  | cons op ops ih =>
      have precedes := early op List.mem_cons_self
      rw [after_cons, ih fun op' member => early op' (List.mem_cons_of_mem _ member)]
      cases op <;> first | rfl | cases precedes

theorem blocks_after_serves {ops : List Operation} (serve : ∀ op ∈ ops, op.Serves row)
    (t : Tables) :
    (t.after ops).blocks = t.blocks ∨ (t.after ops).blocks = t.blocks.writeOnce row := by
  induction ops generalizing t with
  | nil => exact .inl rfl
  | cons op ops ih =>
      have later := ih (fun op' member => serve op' (List.mem_cons_of_mem _ member)) (op.effect t)
      rw [after_cons]
      rcases (serve op List.mem_cons_self).blocks t with same | put
      · rw [same] at later
        exact later
      · rw [put, Table.writeOnce_writeOnce, or_self] at later
        exact .inr later

end Tables

namespace Nearby

theorem saveBlock {t u : Tables} (h : Nearby row t u) :
    Nearby row ((Operation.saveBlock row).effect t) ((Operation.saveBlock row).effect u) := by
  refine ⟨h.validators, h.genesis, .inl ?_⟩
  change u.blocks.writeOnce row = t.blocks.writeOnce row
  rcases h.blocks with same | put
  · rw [same]
  · rw [put, Table.writeOnce_writeOnce]

/-- After what precedes them, the modules cannot tell whether all or some of it was done before,
and some of what follows. -/
theorem of_again {t : Tables} {before later again : List Operation}
    (early : ∀ op ∈ before, op.precedesModules = true)
    (late : ∀ op ∈ later, op.servesModules = true ∨ op = .saveBlock row)
    (within : ∀ op ∈ again, op ∈ before ++ later) :
    Nearby row (t.after before) ((t.after again).after before) := by
  have early' : ∀ op ∈ before, op.Serves row := fun op member => .before (early op member)
  have late' : ∀ op ∈ later, op.Serves row := fun op member =>
    (late op member).elim .during .last
  have again' : ∀ op ∈ again, op.Serves row := fun op member =>
    (List.mem_append.1 (within op member)).elim (early' op) (late' op)
  refine ⟨Table.ext_get? fun k => ?_, ?_, ?_⟩
  · change (Slot.validator k).row? _ = (Slot.validator k).row? _
    rw [← Tables.after_append, Slot.row?_after, Slot.row?_after, List.flatMap_append,
      ← List.append_assoc]
    refine (newest_redo fun v carried => ?_).symm
    obtain ⟨op, member, carried⟩ := List.mem_flatMap.1 carried
    rcases List.mem_append.1 (within op member) with member | member
    · exact List.mem_flatMap.2 ⟨op, member, carried⟩
    · rcases late op member with serves | rfl
      · cases op <;> first | cases carried | cases serves
      · cases carried
  · rw [Tables.genesis_after_serves early', Tables.genesis_after_serves early',
      Tables.genesis_after_serves again']
  · rw [Tables.blocks_after_precedes early, Tables.blocks_after_precedes early]
    exact Tables.blocks_after_serves again' t

end Nearby

namespace Attempt

variable {α β : Type}

/-- The attempt does the same after some of what it does was done already. -/
def Redoable (w : World) (p : Attempt α) : Prop :=
  ∀ t again, again ⊆ (p.alone w t).2 → p.alone w t = p.alone w (t.after again)

theorem alone_of_calls {p : Attempt α} {used : Operation → Bool}
    (made : p.Calls (Effect.uses used))
    (blind : ∀ op, used op = true → ∀ t u, op.answer t = op.answer u) (t u : Tables) :
    p.alone w t = p.alone w u := by
  have alike : p.Alike w fun _ _ => True :=
    alike_of_calls made fun op uses t u _ => ⟨blind op uses t u, trivial⟩
  exact (alike t u trivial).1

theorem redoable_bind {p : Attempt α} {f : α → Attempt β}
    (asks : p.Calls (Effect.uses fun _ => false)) (rest : ∀ value, (f value).Redoable w) :
    (p >>= f).Redoable w := by
  intro t again done
  have nothing : (p.alone w t).2 = [] := List.eq_nil_iff_forall_not_mem.2 fun op member =>
    Bool.false_ne_true (allowed_of_mem_alone asks op member)
  refine alone_bind_congr (alone_of_calls asks (fun _ uses => nomatch uses) _ _) ?_
  intro value ended
  rw [alone_bind_ok ended, nothing] at done
  rw [nothing]
  exact rest value t again done

section Cut

variable {p : Attempt α} {s : Store}

theorem Calls.leaves_open (calls : p.Calls (Effect.uses Operation.retains)) :
    p.Calls (· ≠ .perform .close) := by
  refine calls.imp ?_
  rintro c used rfl
  cases used

theorem complete_eq (calls : p.Calls (Effect.uses Operation.retains))
    (opened : s.closed = false) : w.complete p s =
      { tables := s.tables.after (p.alone w s.tables).2, closed := false } :=
  congrArg Prod.snd (run_handle opened (calls.leaves_open []))

theorem cutShort_eq (calls : p.Calls (Effect.uses Operation.retains))
    (opened : s.closed = false) (cut : World.Cut) : w.cutShort p s cut =
      { tables := s.tables.after
          (((p.alone w s.tables).2.filter Operation.isWrite).take cut.writes)
        closed := false } :=
  run_handleCut opened (calls.leaves_open [])

/-- A redoable attempt that is cut short makes no difference to the one that comes after it. -/
theorem Redoable.complete_cutShort (redoable : p.Redoable w)
    (calls : p.Calls (Effect.uses Operation.retains)) (opened : s.closed = false)
    (cut : World.Cut) : w.complete p (w.cutShort p s cut) = w.complete p s := by
  have begun := List.take_prefix cut.writes ((p.alone w s.tables).2.filter Operation.isWrite)
  have same := redoable s.tables _ (List.Subset.trans begun.subset List.filter_sublist.subset)
  have keeps : ∀ op ∈ (p.alone w s.tables).2.filter Operation.isWrite, op.prunes = false := by
    intro op member
    have retains := allowed_of_mem_alone calls op (List.mem_filter.1 member).1
    cases op <;> first | rfl | cases retains
  have redo := Tables.after_redo (t := s.tables) begun keeps
  rw [Tables.after_filter_isWrite, Tables.after_filter_isWrite] at redo
  rw [cutShort_eq calls opened, complete_eq calls rfl, complete_eq calls opened]
  change Store.mk (Tables.after _ (p.alone w (s.tables.after _)).2) false = _
  rw [← same]
  exact congrArg (Store.mk · false) redo

end Cut

end Attempt

def Fetched.blockRow (data : Fetched) : BlockRecord := data.block.toRecord data.results.totalGas

namespace Indexer

open Attempt

theorem calls_save (rows : Correlated) (signatures : List CommitSignature)
    (txs : List Transaction) :
    (save height rows signatures txs).Calls (Effect.uses Operation.precedesModules) := by
  refine calls_bind (calls_within _ (calls_perform rfl)) fun _ => ?_
  refine calls_bind (calls_within _ (calls_perform rfl)) fun _ => ?_
  refine calls_bind (calls_within _ (calls_perform rfl)) fun _ => ?_
  refine calls_forM _ fun tx => (calls_saveTransaction tx).imp fun c used => used.imp ?_
  intro op saves
  cases op <;> first | rfl | cases saves

def finish (ix : Indexer) (height : Height) (data : Fetched) : Attempt Unit := do
  ix.callModules height data
  atStage height .done (within "failed to persist block"
    (perform (.saveBlock data.blockRow)))

def persist (ix : Indexer) (height : Height) (data : Fetched)
    (signatures : List CommitSignature) : Attempt Unit := do
  atStage height .persisting
    (save height (correlate ix.operators data.validators) signatures data.txs)
  ix.finish height data

theorem calls_saveBlock (data : Fetched) :
    (atStage height .done (within "failed to persist block"
      (perform (.saveBlock data.blockRow)))).Calls (· = .perform (.saveBlock data.blockRow)) :=
  calls_within _ (calls_within _ (calls_perform rfl))

theorem calls_finish {ix : Indexer} (retains : ix.registry.Retains) (data : Fetched) :
    (ix.finish height data).Calls fun c => c.uses Operation.servesModules ∨
      c = .perform (.saveBlock data.blockRow) := by
  refine calls_bind ((ix.calls_callModules data).imp fun c used => .inl ?_) fun _ => ?_
  · exact used.imp fun _ => retains.servesModules
  · exact (calls_saveBlock data).imp fun _ => .inr

/-- The modules and what comes after them are the same whether the block's row is there or not. -/
theorem alike_finish {ix : Indexer} (retains : ix.registry.Retains) (data : Fetched) :
    (ix.finish height data).Alike w (Nearby data.blockRow) := by
  refine alike_bind (alike_bind (alike_dispatch ?_) fun failures => ?_) fun _ => ?_
  · intro m member handler found
    obtain ⟨handle, own, rfl⟩ := Option.map_eq_some_iff.1 found
    exact Nearby.alike_blockHandler (fun config same => retains config (same ▸ member)) own rfl
  · split
    · exact alike_log
    · exact alike_pure _
  · refine alike_of_calls (calls_saveBlock data) ?_
    intro op same t u h
    cases same
    exact ⟨rfl, h.saveBlock⟩

theorem redoable_finish {ix : Indexer} (retains : ix.registry.Retains) {data : Fetched}
    {p : Attempt Unit} (precedes : p.Calls (Effect.uses Operation.precedesModules)) :
    (p >>= fun _ => ix.finish height data).Redoable w := by
  intro t again done
  refine alone_bind_congr ?_ fun _ ended => ?_
  · refine alone_of_calls precedes ?_ _ _
    intro op precedes t u
    cases op <;> first | rfl | cases precedes
  · rw [alone_bind_ok ended] at done
    refine (alike_finish retains data _ _ (Nearby.of_again ?_ ?_ done)).1
    · exact allowed_of_mem_alone precedes
    · intro op member
      refine (allowed_of_mem_alone (calls_finish retains data) op member).imp id ?_
      exact fun same => Effect.perform.inj same

/-- An attempt at a height does the same after attempts that did some of it. -/
theorem redoable_process {ix : Indexer} (retains : ix.registry.Retains) (height : Height) :
    (ix.process height).Redoable w := by
  unfold process
  split
  · intro t again _
    refine alone_of_calls ix.calls_processGenesis ?_ _ _
    intro op used t u
    have serves := Registry.servesGenesis used
    cases op <;> first | rfl | cases serves
  · refine redoable_bind (calls_within _ calls_fetch) fun data => ?_
    refine redoable_bind (calls_within _ (calls_liftExcept _)) fun signatures => ?_
    exact redoable_finish retains (calls_within _ (calls_save _ _ _))

theorem retains_process {ix : Indexer} (retains : ix.registry.Retains) (height : Height) :
    (ix.process height).Calls (Effect.uses Operation.retains) := by
  unfold process
  split
  · refine ix.calls_processGenesis.imp fun c used => used.imp fun op used => ?_
    have serves := Registry.servesGenesis used
    cases op <;> first | rfl | cases serves
  · refine calls_bind (calls_within _ (calls_fetch.imp ?_)) fun data => ?_
    · exact fun c used => used.imp fun _ used => nomatch used
    · refine calls_bind (calls_within _ (calls_liftExcept _)) fun signatures => ?_
      refine calls_bind (calls_within _ ((calls_save _ _ _).imp ?_)) fun _ => ?_
      · refine fun c used => used.imp fun op precedes => ?_
        cases op <;> first | rfl | cases precedes
      · refine (calls_finish retains data).imp fun c used => ?_
        rcases used with used | rfl
        · refine used.imp fun op serves => ?_
          cases op <;> first | rfl | cases serves
        · rfl

/-- Redoing a height is harmless. Whatever the store holds, and however many attempts at a height
were cut short at any of their writes, the attempt that is then completed leaves the store as it
would have left it had it been the only one. -/
theorem redo_harmless (ix : Indexer) (w : World) (retains : ix.registry.Retains)
    (height : Height) (cuts : List World.Cut) (s : Store) (opened : s.closed = false) :
    w.complete (ix.process height) (cuts.foldl (w.cutShort (ix.process height)) s) =
      w.complete (ix.process height) s := by
  have calls := retains_process retains height
  have again := redoable_process (w := w) retains height
  induction cuts generalizing s with
  | nil => rfl
  | cons cut cuts ih =>
      rw [List.foldl_cons, ih _ (congrArg Store.closed (cutShort_eq calls opened cut))]
      exact again.complete_cutShort calls opened cut

/-- Two attempts that are cut short, and one that stores the block, before the last one. -/
theorem redo_harmless_quiet :
    ∃ s again : Store, s = World.quiet.complete (quiet.process 0) Store.new ∧
      again = [⟨2, fun _ => Store.closedFault⟩, ⟨6, fun _ => Store.closedFault⟩,
        ⟨100, fun _ => Store.closedFault⟩].foldl (World.quiet.cutShort (quiet.process 1)) s ∧
      quiet.registry.Retains ∧ s.closed = false ∧ again.tables.blocks.size = 1 ∧
      World.quiet.complete (quiet.process 1) again = World.quiet.complete (quiet.process 1) s :=
  have opened : (World.quiet.complete (quiet.process 0) Store.new).closed = false := by
    decide +kernel
  ⟨_, _, rfl, rfl, quiet_retains, opened, by decide +kernel,
    redo_harmless quiet .quiet quiet_retains 1 _ _ opened⟩

end Indexer
end ChainIndexer
