import ChainIndexer.Proofs.InTurn

/-! What success means. A block is looked up under the height that was asked for, and stored under
the height that the node answered with. Whoever succeeds has stored a block, but its height is the
one asked for only if the node saw to that. -/
namespace ChainIndexer

namespace Indexer

open Surroundings

variable {σ : Type}

theorem exists_persists_of_isOk (ix : Indexer) (o : Surroundings σ) {height : Height}
    (positive : height ≠ 0) {m : σ} {s : Store} (opened : s.closed = false)
    (missing : s.tables.blocks.contains height = false)
    (succeeded : (o.run (ix.processIfMissing height) (m, s)).1.isOk = true) :
    ∃ data signatures ops, ((o.fetch height).run m).1 = .ok data ∧
      ix.Persists data signatures ops ∧
      (o.run (ix.processIfMissing height) (m, s)).2.2 = ⟨s.tables.after ops, false⟩ := by
  obtain ⟨ended, m', u, ran, comes⟩ :=
    @leads_processIfMissing _ o ix ix.worker height m s opened
  have ran : o.run (ix.processIfMissing height) (m, s) = (ended, m', ⟨u, false⟩) := ran
  rw [ran] at succeeded ⊢
  cases ended with
  | error f => cases succeeded
  | ok value =>
      rw [if_neg positive] at comes
      cases comes with
      | spared _ _ stored =>
          rw [missing] at stored
          cases stored
      | indexed _ data signatures ops _ fetched _ persists =>
          exact ⟨data, signatures, ops, fetched, persists, rfl⟩

/-- Success means stored, if the node answers for the height that it was asked about. Whatever the
node answers, an attempt that succeeds on an open store leaves the block of its height there
exactly if it was there before, or if the block that was fetched has this height. What was fetched
is stored in any case, under its own height. Once the block of the height is there, another attempt
succeeds, asks nothing, and leaves the store as it is. -/
theorem stored_iff_answered (ix : Indexer) (o : Surroundings σ) (height : Height)
    (positive : height ≠ 0) (m : σ) (s : Store) (opened : s.closed = false)
    (succeeded : (o.run (ix.processIfMissing height) (m, s)).1.isOk = true) :
    let after := (o.run (ix.processIfMissing height) (m, s)).2.2
    (after.tables.blocks.contains height = true ↔ s.tables.blocks.contains height = true ∨
      ∃ data, ((o.fetch height).run m).1 = .ok data ∧ data.block.height = height) ∧
    (s.tables.blocks.contains height = false → ∃ data, ((o.fetch height).run m).1 = .ok data ∧
      after.tables.blocks.contains data.block.height = true) ∧
    (after.tables.blocks.contains height = true → ∀ (τ : Type) (again : Surroundings τ) (n : τ),
      again.run (ix.processIfMissing height) (n, after) = (.ok (), n, after)) := by
  intro after
  have noop (closed : after.closed = false) (stored : after.tables.blocks.contains height = true)
      (τ : Type) (again : Surroundings τ) (n : τ) :
      again.run (ix.processIfMissing height) (n, after) = (.ok (), n, after) := by
    rw [run_processIfMissing ix height n closed, if_pos ⟨positive, stored⟩]
  cases stored : s.tables.blocks.contains height with
  | true =>
      have same : after = s := by
        show (o.run (ix.processIfMissing height) (m, s)).2.2 = s
        rw [run_processIfMissing ix height m opened, if_pos ⟨positive, stored⟩]
      refine ⟨?_, nofun, noop (same ▸ opened)⟩
      rw [same, stored]
      simp
  | false =>
      obtain ⟨data, signatures, ops, fetched, persists, tables⟩ :=
        exists_persists_of_isOk ix o positive opened stored succeeded
      have becomes := persists.contains_iff s.tables
      rw [show after = _ from tables] at noop ⊢
      refine ⟨?_, fun _ => ⟨data, fetched, (becomes _).2 (.inr rfl)⟩, noop rfl⟩
      rw [becomes, stored, fetched]
      simp

end Indexer

def World.ahead : World where
  node
    | .block height => World.quiet.node (.block (height + 1))
    | query => World.quiet.node query
  files := World.quiet.files

namespace Indexer

/-- Height five is asked for, and the node answers with block five. -/
theorem stored_iff_answered_quiet :
    ∃ after : Store,
      after = (World.quiet.counting.run (quiet.processIfMissing 5) (0, Store.new)).2.2 ∧
      (5 : Height) ≠ 0 ∧ Store.new.closed = false ∧
      (World.quiet.counting.run (quiet.processIfMissing 5) (0, Store.new)).1.isOk = true ∧
      after.tables.blocks.contains 5 = true ∧
      ∀ asked, World.quiet.counting.run (quiet.processIfMissing 5) (asked, after) =
        (.ok (), asked, after) := by
  have succeeded : (World.quiet.counting.run (quiet.processIfMissing 5) (0, Store.new)).1.isOk =
    true := by decide +kernel
  obtain ⟨stored, _, noop⟩ :=
    stored_iff_answered quiet World.quiet.counting 5 (by decide) 0 Store.new rfl succeeded
  have fetched : ∃ data, ((World.quiet.counting.fetch 5).run 0).1 = .ok data ∧
    data.block.height = 5 := ⟨_, rfl, rfl⟩
  have present := stored.2 (.inr fetched)
  exact ⟨_, rfl, by decide, rfl, succeeded, present, noop present Nat World.quiet.counting⟩

/-- Height five is asked for, and the node answers with block six. The attempt succeeds, five is
not stored, and the next attempt asks the node again. -/
theorem succeeded_not_stored_ahead :
    (World.ahead.counting.run (quiet.processIfMissing 5) (0, Store.new)).1.isOk = true ∧
      (World.ahead.counting.run (quiet.processIfMissing 5) (0, Store.new)).2.2.tables.blockHeights =
        [6] ∧
      (World.ahead.counting.run (quiet.processIfMissing 5) (0, Store.new)).2.1 <
        (World.ahead.counting.run (quiet.processIfMissing 5)
          (World.ahead.counting.run (quiet.processIfMissing 5) (0, Store.new)).2).2.1 := by
  decide +kernel

end Indexer
end ChainIndexer
