import ChainIndexer.Proofs.CompletionMarker
import ChainIndexer.Proofs.OrderIndependence

/-! What pruning takes away. A row is removed only when its own height is pruned. Two blocks may
carry one transaction, though, whose one row is of the block that was stored first. So a stored
block that was not pruned has all its transactions, but for those that were first stored with a
lower block and were pruned with it. -/
namespace ChainIndexer

/-- A node that answers for the heights it is asked about, and reads transactions off their
block. -/
structure World.Faithful (w : World) : Prop where
  block : ∀ height b, w.node (.block height) = .ok b → b.height = height
  transactions : ∀ b txs, w.node (.transactions b) = .ok txs → txs = b.transactions

theorem Fetched.From.told {data : Fetched} {height : Height} {past : History} {w : World}
    (fetched : data.From height past) (heard : past.Heard w) :
    w.node (.block height) = .ok data.block ∧ w.node (.transactions data.block) = .ok data.txs :=
  ⟨(heard _ _ fetched.block).symm, (heard _ _ fetched.txs).symm⟩

theorem Block.height_of_mem_transactions {b : Block} {tx : Transaction}
    (member : tx ∈ b.transactions) : tx.height = b.height := by
  obtain ⟨raw, _, rfl⟩ := List.mem_map.1 member
  unfold Transaction.ofRaw
  split <;> rfl

/-- Under a hash, there was the row of a transaction in a lower block, and it was pruned. -/
structure Transaction.PrunedBelow (w : World) (log : List Operation) (height : Height)
    (hash : String) (tx : Transaction) : Prop where
  same : tx.hash = hash
  below : tx.height < height
  carried : ∃ b, w.node (.block tx.height) = .ok b ∧ tx ∈ b.transactions
  pruned : ∃ earlier boundary, earlier ++ [.prune boundary] <+: log ∧
    (({} : Tables).after earlier).txs.get? hash = some tx ∧ tx.height < boundary

namespace Crew

variable {ix : Indexer} {w : World} {work : List (Nat × Height)} {schedule : List Nat}

theorem log_done (ix : Indexer) (work : List (Nat × Height)) (moves : List Move) :
    ((indexing ix work).play moves).Log ((indexing ix work).done moves) :=
  (log_start ix _).play moves

theorem ordered_indexing (ix : Indexer) (work : List (Nat × Height)) (moves : List Move) :
    ∀ u ∈ ((indexing ix work).play moves).attempts, u.Keeps ix.ordering fun _ _ _ => True := by
  refine keeps_play (fun job given => ?_) fun _ _ _ _ _ _ _ _ _ _ => trivial
  obtain ⟨⟨worker, height⟩, _, rfl⟩ := List.mem_map.1 given
  exact Program.Keeps.imp (fun _ _ h => h) (fun _ _ _ h => h) (fun _ _ _ => trivial)
    (Indexer.keeps_processIfMissing { ix with worker })

theorem exists_block_of_saveTx (faithful : w.Faithful) {tx : Transaction}
    (saved : .saveTx tx ∈ (indexing ix work).done (w.moves schedule)) :
    ∃ b, w.node (.block tx.height) = .ok b ∧ tx ∈ b.transactions := by
  obtain ⟨u, member, before, begun, height, data, fetched, listed⟩ :=
    (log_done ix work _).agreed (ordered_indexing ix work _) saved
  obtain ⟨block, txs⟩ := (fetched.mono begun).told (heard_play ix _ schedule u member)
  have listed : tx ∈ data.block.transactions := faithful.transactions _ _ txs ▸ listed
  have level : tx.height = height :=
    (Block.height_of_mem_transactions listed).trans (faithful.block _ _ block)
  rw [level]
  exact ⟨data.block, block, listed⟩

theorem exists_block_of_saveBlock (faithful : w.Faithful) {row : BlockRecord}
    (saved : .saveBlock row ∈ (indexing ix work).done (w.moves schedule)) :
    ∃ b, w.node (.block row.height) = .ok b ∧
      ∀ tx ∈ b.transactions, .saveTx tx ∈ (indexing ix work).done (w.moves schedule) := by
  have shown := log_done ix work (w.moves schedule)
  obtain ⟨u, member, before, begun, height, data, signatures, fetched, _, rfl, written⟩ :=
    shown.agreed (ordered_indexing ix work _) saved
  obtain ⟨block, txs⟩ := (fetched.mono begun).told (heard_play ix _ schedule u member)
  have level : (data.block.toRecord data.results.totalGas).height = height :=
    faithful.block _ _ block
  rw [level]
  refine ⟨data.block, block, ?_⟩
  intro tx listed
  rw [← faithful.transactions _ _ txs] at listed
  have wrote : .saveTx tx ∈ data.writes ix.operators signatures :=
    List.mem_append_right _ (List.mem_flatMap.2 ⟨tx, listed, .head _⟩)
  obtain ⟨a, passed⟩ := History.mem_performed.1 (written _ wrote)
  exact (shown.mem_iff _).2 ⟨u, member, History.mem_performed.2 ⟨a, begun.subset passed⟩⟩

/-- Pruning takes nothing away from a block that is kept, but for transactions that it shares with
a lower block. Workers index heights in any order, one after the other or interleaved in any way,
with any modules, and each may be stopped anywhere. Of a stored block that no boundary pruned so
far has passed, each transaction is found under its hash, or the row under this hash came from a
lower block with the same transaction and was pruned. -/
theorem kept_block_has_unshared_transactions (ix : Indexer) (faithful : w.Faithful)
    (work : List (Nat × Height)) (schedule : List Nat) :
    ∀ row ∈ ((indexing ix work).play (w.moves schedule)).store.tables.blocks.rows,
      (∀ boundary, .prune boundary ∈ (indexing ix work).done (w.moves schedule) →
        boundary ≤ row.height) →
      ∃ b, w.node (.block row.height) = .ok b ∧ ∀ tx ∈ b.transactions,
        ((indexing ix work).play (w.moves schedule)).store.tables.txs.contains tx.hash = true ∨
        ∃ lower : Transaction, lower.PrunedBelow w ((indexing ix work).done (w.moves schedule))
          row.height tx.hash := by
  intro row stored kept
  have shown := log_done ix work (w.moves schedule)
  rw [shown.tables] at stored ⊢
  obtain ⟨op, done, carried⟩ := Entry.exists_of_row?_eq_some (.block row.height)
    (Table.get?_eq_some_iff.2 ⟨stored, rfl⟩)
  cases op with
  | saveBlock saved =>
      obtain rfl : row = saved := by simpa using (List.mem_filter.1 carried).1
      obtain ⟨b, answered, written⟩ := exists_block_of_saveBlock faithful done
      refine ⟨b, answered, ?_⟩
      intro tx listed
      have carried : (Entry.tx tx.hash).carried (.saveTx tx) ≠ [] := by simp [Entry.carried]
      refine (Entry.stored_or_pruned (.inr ⟨_, written tx listed, carried⟩)).imp id ?_
      rintro ⟨earlier, boundary, lower, begun, held, below⟩
      obtain ⟨op, did, carried⟩ := Entry.exists_of_row?_eq_some (.tx tx.hash) held
      cases op with
      | saveTx first =>
          obtain rfl : lower = first := by simpa using (List.mem_filter.1 carried).1
          have pruned : .prune boundary ∈ (indexing ix work).done (w.moves schedule) :=
            begun.subset (by simp)
          exact ⟨lower,
            { same := Entry.fits_of_row?_eq_some held
              below := UInt64.lt_of_lt_of_le below (kept boundary pruned)
              carried := exists_block_of_saveTx faithful
                (begun.subset (List.mem_append_left _ did))
              pruned := ⟨earlier, boundary, begun, held, below⟩ }⟩
      | _ => cases carried
  | _ => cases carried

end Crew

/-- The quiet chain, but that every block carries one and the same raw transaction. -/
def World.repeating : World where
  node
    | .block height => .ok
      { height, hash := "", chainId := "quiet", proposerAddress := [1]
        timestamp := "2024-01-01T00:00:00Z", txs := [[0x7b, 0x7d]]
        lastCommit := ⟨height - 1, [⟨[1], "2024-01-01T00:00:00Z", some [7]⟩]⟩ }
    | query => World.quiet.node query
  files := World.quiet.files

theorem World.repeating_faithful : World.repeating.Faithful where
  block height b answered := by
    cases answered
    rfl
  transactions b txs answered := by
    cases answered
    rfl

def Indexer.brief : Indexer where
  registry := ⟨[.pruning { keepRecent := 1, interval := 1 }]⟩
  operators := Indexer.quiet.operators

namespace Crew

def inTurn : List Nat := List.replicate 11 0 ++ List.replicate 13 1

def pair : Crew := indexing .brief [(1, 1), (1, 3)]

theorem boundary_le_three {boundary : Height}
    (pruned : .prune boundary ∈ pair.done (World.repeating.moves inTurn)) :
    boundary ≤ 3 := by
  have spared : (pair.done (World.repeating.moves inTurn)).all
      (fun op => !op.removes 3) = true := by decide +kernel
  simpa [Operation.removes] using List.all_eq_true.1 spared _ pruned

theorem height_eq_three {row : BlockRecord}
    (stored : row ∈ (pair.play (World.repeating.moves inTurn)).store.tables.blocks.rows) :
    row.height = 3 := by
  have heights : (pair.play (World.repeating.moves inTurn)).store.tables.blocks.rows.map
      (·.height) = [3] := by decide +kernel
  exact List.mem_singleton.1 (heights ▸ List.mem_map_of_mem stored)

/-- The two blocks share their transaction, whose row is pruned with the lower block. -/
theorem kept_block_has_unshared_transactions_repeating :
    ∃ (crew : Crew) (log : List Operation),
      crew = pair.play (World.repeating.moves inTurn) ∧
      log = pair.done (World.repeating.moves inTurn) ∧ World.repeating.Faithful ∧
      crew.store.tables.blocks.size = 1 ∧
      ∀ row ∈ crew.store.tables.blocks.rows,
        (∀ boundary, .prune boundary ∈ log → boundary ≤ row.height) ∧
        ∃ b, World.repeating.node (.block row.height) = .ok b ∧ ∀ tx ∈ b.transactions,
          crew.store.tables.txs.contains tx.hash = true ∨
          ∃ lower : Transaction, lower.PrunedBelow World.repeating log row.height tx.hash := by
  refine ⟨_, _, rfl, rfl, World.repeating_faithful, by decide +kernel, ?_⟩
  intro row stored
  have spared : ∀ boundary, .prune boundary ∈ pair.done (World.repeating.moves inTurn) →
      boundary ≤ row.height := by
    intro boundary pruned
    rw [height_eq_three stored]
    exact boundary_le_three pruned
  refine ⟨spared, ?_⟩
  exact kept_block_has_unshared_transactions .brief World.repeating_faithful [(1, 1), (1, 3)]
    inTurn row stored spared

/-- Pruning can take a transaction away from a block that is kept. Height one is indexed to its
end, then height three; the one boundary pruned is two, and the block at three is left without the
transaction that it shares with the block at one. -/
theorem shared_transaction_lost :
    World.repeating.Faithful ∧
      (pair.play (World.repeating.moves (inTurn.take 11))).attempts.map Underway.ended =
        [true, false] ∧
      (pair.play (World.repeating.moves inTurn)).Ended ∧
      (∀ boundary, .prune boundary ∈ pair.done (World.repeating.moves inTurn) →
        boundary ≤ 3) ∧
      (pair.play (World.repeating.moves inTurn)).store.tables.blocks.contains 3 = true ∧
      ∃ b, World.repeating.node (.block 3) = .ok b ∧ ∃ tx ∈ b.transactions,
        (pair.play (World.repeating.moves inTurn)).store.tables.txs.contains tx.hash =
          false :=
  ⟨World.repeating_faithful, by decide +kernel, by decide +kernel, fun _ => boundary_le_three,
    by decide +kernel, _, rfl, _, List.mem_cons_self, by decide +kernel⟩

end Crew
end ChainIndexer
