import ChainIndexer.Proofs.Served

/-! Acceptance. A height is accepted exactly when it can be resolved: everything about it can be
fetched, and its proposer and all signers are in the validator set. A height that is rejected
leaves no trace in the store. -/
namespace ChainIndexer

theorem ValidatorSet.findByAddress_eq_none_iff {set : ValidatorSet} {address : Bytes} :
    set.findByAddress address = none ↔ ∀ v ∈ set.validators, v.address ≠ address := by
  simp [findByAddress]

namespace Fetched

/-- The proposer and all who signed are validators of the set. -/
structure Resolvable (data : Fetched) : Prop where
  proposer : ∃ v ∈ data.validators.validators, v.address = data.block.proposerAddress
  signers : ∀ entry ∈ data.block.lastCommit.entries, ∀ signature,
    entry.signature = some signature → signature ≠ [] →
      ∃ v ∈ data.validators.validators, v.address = entry.validatorAddress

variable {data : Fetched}

theorem resolve_error {f : Fault} (failed : data.resolve = .error f) :
    f.kind = .unknownValidator ∧ ¬ data.Resolvable := by
  unfold resolve at failed
  split at failed
  · rename_i unknown
    cases failed
    refine ⟨rfl, fun h => ?_⟩
    obtain ⟨v, member, same⟩ := h.proposer
    exact ValidatorSet.findByAddress_eq_none_iff.1 unknown v member same
  · obtain ⟨entry, listed, failed⟩ := exists_mem_of_mapM_eq_error failed
    obtain ⟨listed, signed⟩ := List.mem_filter.1 listed
    unfold ValidatorSet.signature at failed
    split at failed
    · rename_i unknown
      cases failed
      refine ⟨rfl, fun h => ?_⟩
      unfold CommitEntry.isSigned at signed
      split at signed
      · rename_i signature given
        obtain ⟨v, member, same⟩ :=
          h.signers entry listed signature given (by simpa using signed)
        exact ValidatorSet.findByAddress_eq_none_iff.1 unknown v member same
      · cases signed
    · cases failed

theorem resolvable_of_resolve {signatures : List CommitSignature}
    (resolved : data.resolve = .ok signatures) : data.Resolvable := by
  unfold resolve at resolved
  split at resolved
  · cases resolved
  · rename_i proposer found
    refine ⟨⟨proposer, List.mem_of_find?_eq_some found, ?_⟩, ?_⟩
    · simpa using List.find?_some found
    · intro entry listed signature given filled
      have signed : entry.isSigned = true := by simpa [CommitEntry.isSigned, given] using filled
      obtain ⟨row, _, made⟩ :=
        exists_mem_of_mapM_eq_ok resolved entry (List.mem_filter.2 ⟨listed, signed⟩)
      unfold ValidatorSet.signature at made
      split at made
      · cases made
      · rename_i v found
        exact ⟨v, List.mem_of_find?_eq_some found, by simpa using List.find?_some found⟩

end Fetched

namespace Surroundings

open Attempt

variable {σ : Type} {o : Surroundings σ} {height : Height}

/-- What is asked about a height, in this order and up to the first question that fails. -/
def fetch (o : Surroundings σ) (height : Height) : ExceptT Fault (StateM σ) Fetched := do
  let block ← .mk (o.node (.block height))
  let results ← .mk (o.node (.blockResults height))
  let txs ← .mk (o.node (.transactions block))
  let validators ← .mk (o.node (.validators height))
  return { block, results, txs, validators }

theorem run_hasBlock (doing : String) (m : σ) {s : Store} (opened : s.closed = false) :
    o.run (within doing (perform (.hasBlock height))) (m, s) =
      (.ok (s.tables.blocks.contains height), m, s) := by
  rw [run_within]
  change ((s.perform (.hasBlock height)).1.mapError (Fault.within doing), m,
    (s.perform (.hasBlock height)).2) = _
  have leaves : Operation.hasBlock height ≠ .close := nofun
  rw [Store.perform_opened opened leaves]
  obtain ⟨tables, closed⟩ := s
  cases opened
  rfl

theorem asks_fetchTransactions (b : Block) :
    o.Asks (Indexer.fetchTransactions b) (.mk (o.node (.transactions b))) := by
  have asked : o.Asks (Indexer.fetchTransactions b)
      (.mk (o.node (.transactions b)) >>= fun txs => pure () >>= fun _ => pure txs) :=
    asks_bind (asks_within (asks_ask _)) fun txs => asks_bind (asks_logs _) fun _ => asks_pure txs
  simpa using asked

theorem asks_fetch : o.Asks (Indexer.fetch height) (o.fetch height) := by
  refine asks_bind (asks_within (asks_ask _)) fun block => ?_
  refine asks_bind (asks_within (asks_ask _)) fun results => ?_
  refine asks_bind (asks_fetchTransactions block) fun txs => ?_
  exact asks_bind (asks_within (asks_ask _)) fun validators => asks_pure _

/-- What becomes of a height: it is rejected for what was fetched, with the store as it was, or
what was fetched is persisted. -/
theorem run_processBlock_cases (ix : Indexer) (o : Surroundings σ) (height : Height) (m : σ)
    (s : Store) :
    match ((o.fetch height).run m).1 with
    | .error first => ∃ f m', o.run (ix.processBlock height) (m, s) = (.error f, m', s) ∧
        f.kind = first.kind
    | .ok data =>
      match data.resolve with
      | .error unresolved => ∃ f m', o.run (ix.processBlock height) (m, s) = (.error f, m', s) ∧
          f.kind = unresolved.kind
      | .ok signatures => o.run (ix.processBlock height) (m, s) =
          o.run (ix.persist height data signatures) (((o.fetch height).run m).2, s) := by
  have asked : o.Asks (Indexer.atStage height .fetching (Indexer.fetch height)) (o.fetch height) :=
    asks_within asks_fetch
  obtain ⟨e, ran, same⟩ := asked m s
  unfold Indexer.processBlock
  rw [run_bind, ran]
  split
  · rename_i first answered
    rw [answered] at same
    cases e with
    | ok data => exact same.elim
    | error f => exact ⟨f, _, rfl, same⟩
  · rename_i data answered
    rw [answered] at same
    cases e with
    | error f => exact same.elim
    | ok data' =>
        obtain rfl : data' = data := same
        dsimp only
        rw [run_bind, Indexer.atStage, run_within, run_liftExcept]
        cases data'.resolve with
        | error unresolved => exact ⟨_, _, rfl, rfl⟩
        | ok signatures => rfl

theorem run_processBlock (ix : Indexer) (o : Surroundings σ) (height : Height) (m : σ) {s : Store}
    (opened : s.closed = false) :
    match ((o.fetch height).run m).1 with
    | .error first => ∃ f m', o.run (ix.processBlock height) (m, s) = (.error f, m', s) ∧
        f.kind = first.kind
    | .ok data =>
      match data.resolve with
      | .error unresolved => ∃ f m', o.run (ix.processBlock height) (m, s) = (.error f, m', s) ∧
          f.kind = unresolved.kind
      | .ok _ => ∃ state, o.run (ix.processBlock height) (m, s) = (.ok (), state) := by
  have becomes := run_processBlock_cases ix o height m s
  cases fetched : ((o.fetch height).run m).1 with
  | error first =>
      rw [fetched] at becomes
      exact becomes
  | ok data =>
      rw [fetched] at becomes
      cases resolved : data.resolve with
      | error unresolved =>
          simp only [resolved] at becomes ⊢
          exact becomes
      | ok signatures =>
          simp only [resolved] at becomes ⊢
          obtain ⟨m', ops, persisted, _⟩ := run_persist (o := o) ix ix.worker height data
            signatures ((o.fetch height).run m).2 opened
          exact ⟨_, becomes.trans persisted⟩

def recovering : Surroundings Nat where
  node
    | .validators height => fun asked =>
      (if asked < 4 then .ok ⟨height, []⟩ else World.quiet.node (.validators height), asked + 1)
    | q => fun asked => (World.quiet.node q, asked + 1)
  files path := fun asked => (World.quiet.files path, asked)

end Surroundings

namespace Indexer

open Attempt

variable {σ : Type}

/-- A height whose block is not stored is accepted exactly when it can be resolved. If it is not
accepted the store is as it was, and the fault is of the kind of the first question that failed,
or says that a validator is unknown. The node may answer as it likes at any time, and neither the
modules nor the operators matter. -/
theorem accepted_iff_resolvable (ix : Indexer) (o : Surroundings σ) (height : Height)
    (positive : height ≠ 0) (m : σ) (s : Store) (opened : s.closed = false)
    (missing : s.tables.blocks.contains height = false) :
    ((o.run (ix.processIfMissing height) (m, s)).1.isOk = true ↔
      ∃ data, ((o.fetch height).run m).1 = .ok data ∧ data.Resolvable) ∧
    ∀ f, (o.run (ix.processIfMissing height) (m, s)).1 = .error f →
      (o.run (ix.processIfMissing height) (m, s)).2.2 = s ∧
      f.kind = match ((o.fetch height).run m).1 with
        | .error first => first.kind
        | .ok _ => .unknownValidator := by
  have unspared : o.run (ix.processIfMissing height) (m, s) =
      o.run (ix.processBlock height) (m, s) := by
    unfold processIfMissing process
    rw [if_neg positive, if_neg positive, Surroundings.run_bind,
      Surroundings.run_hasBlock _ m opened, missing]
    rfl
  have becomes := Surroundings.run_processBlock ix o height m opened
  rw [unspared]
  cases fetched : ((o.fetch height).run m).1 with
  | error first =>
      rw [fetched] at becomes
      obtain ⟨f, m', ran, kind⟩ := becomes
      rw [ran]
      refine ⟨by simp [Except.isOk, Except.toBool], ?_⟩
      rintro _ ⟨⟩
      exact ⟨rfl, kind⟩
  | ok data =>
      rw [fetched] at becomes
      cases resolved : data.resolve with
      | error unresolved =>
          simp only [resolved] at becomes
          obtain ⟨f, m', ran, kind⟩ := becomes
          obtain ⟨unknown, unresolvable⟩ := Fetched.resolve_error resolved
          rw [ran]
          refine ⟨?_, ?_⟩
          · simp [Except.isOk, Except.toBool, unresolvable]
          · rintro _ ⟨⟩
            exact ⟨rfl, kind.trans unknown⟩
      | ok signatures =>
          simp only [resolved] at becomes
          obtain ⟨state, ran⟩ := becomes
          rw [ran]
          refine ⟨?_, nofun⟩
          simp [Except.isOk, Except.toBool, Fetched.resolvable_of_resolve resolved]

/-- A node that has lost its validators, and has found them once the height is tried again. -/
theorem accepted_iff_resolvable_recovering :
    ∃ s : Store, s = World.quiet.complete (quiet.process 2) Store.new ∧ (1 : Height) ≠ 0 ∧
      s.closed = false ∧ s.tables.blocks.contains 1 = false ∧
      (Surroundings.recovering.run (quiet.processIfMissing 1) (4, s)).1.isOk = true ∧
      ((Surroundings.recovering.run (quiet.processIfMissing 1) (0, s)).1.isOk = true ↔
        ∃ data, ((Surroundings.recovering.fetch 1).run 0).1 = .ok data ∧ data.Resolvable) ∧
      ∀ f, (Surroundings.recovering.run (quiet.processIfMissing 1) (0, s)).1 = .error f →
        (Surroundings.recovering.run (quiet.processIfMissing 1) (0, s)).2.2 = s ∧
        f.kind = .unknownValidator := by
  have missing : (World.quiet.complete (quiet.process 2) Store.new).tables.blocks.contains 1 =
    false := by decide +kernel
  exact ⟨_, rfl, by decide, by decide +kernel, missing, by decide +kernel,
    accepted_iff_resolvable quiet .recovering 1 (by decide) 0 _ (by decide +kernel) missing⟩

end Indexer
end ChainIndexer
