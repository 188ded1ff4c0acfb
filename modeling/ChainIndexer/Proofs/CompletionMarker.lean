import ChainIndexer.Proofs.Crew
import ChainIndexer.Proofs.Store.Entry
import ChainIndexer.Proofs.Store.Slot
import ChainIndexer.Proofs.Writes

/-! The row of a block as a mark of completion. It is written last and nothing that was written
before it is removed, so that whatever happens to the attempts, a stored block row says that
everything else of its height is stored. -/
namespace ChainIndexer

structure Fetched.From (data : Fetched) (height : Height) (past : History) : Prop where
  block : (⟨.ask (.block height), .ok data.block⟩ : Exchange) ∈ past
  results : (⟨.ask (.blockResults height), .ok data.results⟩ : Exchange) ∈ past
  txs : (⟨.ask (.transactions data.block), .ok data.txs⟩ : Exchange) ∈ past
  validators : (⟨.ask (.validators height), .ok data.validators⟩ : Exchange) ∈ past

theorem Fetched.From.mono {data : Fetched} {height : Height} {past later : History}
    (h : data.From height past) (begun : past <+: later) : data.From height later :=
  ⟨begun.subset h.block, begun.subset h.results, begun.subset h.txs, begun.subset h.validators⟩

/-- Everything that was fetched has its rows. Validators and their descriptions are kept up to
date, so theirs may have been observed later. -/
structure Fetched.Stored (data : Fetched) (operators : List Operator) (t : Tables) : Prop where
  signatures : ∀ entry ∈ data.block.lastCommit.entries, entry.isSigned = true →
    t.commitSignatures.contains ⟨.ofRaw entry.validatorAddress, entry.timestamp⟩ = true
  txs : ∀ tx ∈ data.txs, t.txs.contains tx.hash = true
  messages : ∀ tx ∈ data.txs, ∀ row ∈ tx.messageRows, t.messages.contains row.key = true
  validators : ∀ row ∈ (correlate operators data.validators).validators,
    ∃ stored, t.validators.get? row.consensusAddress = some stored ∧
      data.validators.height ≤ stored.height
  descriptions : ∀ row ∈ (correlate operators data.validators).descriptions,
    ∃ stored, t.descriptions.get? row.operatorAddress = some stored ∧
      data.validators.height ≤ stored.height

theorem Fetched.exists_signature {data : Fetched} {signatures : List CommitSignature}
    (resolved : data.resolve = .ok signatures) {entry : CommitEntry}
    (listed : entry ∈ data.block.lastCommit.entries) (signed : entry.isSigned = true) :
    ∃ row ∈ signatures, row.key = ⟨.ofRaw entry.validatorAddress, entry.timestamp⟩ := by
  unfold resolve at resolved
  split at resolved
  · cases resolved
  · obtain ⟨row, member, made⟩ := exists_mem_of_mapM_eq_ok resolved entry
      (List.mem_filter.2 ⟨listed, signed⟩)
    refine ⟨row, member, ?_⟩
    unfold ValidatorSet.signature at made
    split at made
    · cases made
    · cases made
      rfl

theorem Fetched.stored_of_writes {log : List Operation} {data : Fetched} {operators : List Operator}
    {signatures : List CommitSignature} (resolved : data.resolve = .ok signatures)
    (keeps : ∀ op ∈ log, op.prunes = false)
    (written : ∀ op ∈ data.writes operators signatures, op ∈ log) :
    data.Stored operators (({} : Tables).after log) := by
  have ofTransactions : ∀ tx ∈ data.txs, ∀ op ∈ tx.writes, op ∈ log := by
    intro tx sent op member
    exact written op (List.mem_append_right _ (List.mem_flatMap.2 ⟨tx, sent, member⟩))
  refine ⟨?_, ?_, ?_, ?_, ?_⟩
  · intro entry listed signed
    obtain ⟨row, member, key⟩ := exists_signature resolved listed signed
    have done : .saveCommitSignatures signatures ∈ log := written _ (by simp [writes])
    exact Entry.isSome_of_mem keeps (.signature _) done
      (List.mem_filter.2 ⟨member, by simpa using key⟩)
  · intro tx sent
    have carried : tx ∈ (Entry.tx tx.hash).carried (.saveTx tx) := by simp [Entry.carried]
    exact Entry.isSome_of_mem keeps (.tx tx.hash) (ofTransactions tx sent _ (.head _)) carried
  · intro tx sent row member
    have done : .saveMessages tx.messageRows ∈ log :=
      ofTransactions tx sent _ (.tail _ (.head _))
    exact Entry.isSome_of_mem keeps (.message row.key) done
      (List.mem_filter.2 ⟨member, by simp⟩)
  · intro row member
    have height : row.height = data.validators.height := by
      obtain ⟨v, _, rfl⟩ := List.mem_map.1 member
      rfl
    rw [← height]
    exact Slot.exists_of_mem (.validator row.consensusAddress) (written _ (.head _))
      (List.mem_filter.2 ⟨member, by simp⟩)
  · intro row member
    have height : row.height = data.validators.height := by
      obtain ⟨v, _, rfl⟩ := List.mem_map.1 member
      rfl
    rw [← height]
    exact Slot.exists_of_mem (.description row.operatorAddress) (written _ (.tail _ (.head _)))
      (List.mem_filter.2 ⟨member, by simp⟩)

namespace Indexer

open Attempt

/-- A block row comes after all that belongs to its height, and nothing is pruned. Answers are not
agreed on: the node may say anything, and the store may refuse. -/
def marking (ix : Indexer) : Contract where
  calls past
    | .perform (.saveBlock row) =>
      ∃ (height : Height) (data : Fetched) (signatures : List CommitSignature),
        data.From height past ∧ data.resolve = .ok signatures ∧
        row = data.block.toRecord data.results.totalGas ∧
        ∀ op ∈ data.writes ix.operators signatures, op ∈ past.performed
    | .perform (.prune _) => False
    | _ => True
  answers _ _ _ := True

/-- The same, and a transaction is saved once it was fetched. Only a module may prune. -/
def ordering (ix : Indexer) : Contract where
  calls past
    | .perform (.saveTx tx) => ∃ (height : Height) (data : Fetched),
      data.From height past ∧ tx ∈ data.txs
    | .perform (.prune _) => ¬ ix.registry.Retains
    | c => ix.marking.calls past c
  answers _ _ _ := True

variable {ix : Indexer} {height : Height} {past : History}

theorem keeps_marking (retains : ix.registry.Retains) {p : Attempt Unit}
    (ordered : p.Keeps ix.ordering (fun _ _ => True) (fun _ _ => True) past) :
    p.Keeps ix.marking (fun _ _ => True) (fun _ _ => True) past := by
  have ordered : p.run.Keeps ix.ordering _ past := ordered
  refine Program.Keeps.imp ?_ (fun _ _ _ _ => trivial) (fun _ _ held => held) ordered
  intro past c agreed
  cases c with
  | perform op =>
      cases op with
      | saveTx tx => trivial
      | prune boundary => exact absurd retains agreed
      | _ => exact agreed
  | _ => trivial

theorem keeps_fetch {k : Contract} (asks : ∀ past query, k.calls past (.ask query))
    (logs : ∀ past line, k.calls past (.log line)) :
    (fetch height).Keeps k (fun data later => data.From height later) (fun _ _ => True) past := by
  unfold fetch fetchBlock fetchTransactions
  rw [keeps_bind, keeps_within]
  refine (keeps_question (asks _ _)).imp ?_ fun _ _ _ => trivial
  rintro block _ ⟨_, rfl⟩
  rw [keeps_bind, keeps_within]
  refine (keeps_question (asks _ _)).imp ?_ fun _ _ _ => trivial
  rintro results _ ⟨_, rfl⟩
  rw [keeps_bind, keeps_bind, keeps_within]
  refine (keeps_question (asks _ _)).imp ?_ fun _ _ _ => trivial
  rintro txs asked ⟨_, asked_eq⟩
  rw [keeps_bind]
  have logged : (block.decodingWarnings.forM log).Calls fun c => ∃ line, c = .log line :=
    calls_forM _ fun line => calls_log ⟨line, rfl⟩
  refine (logged.keeps (asked <+: ·) ?_ ?_ List.prefix_rfl).imp ?_ fun _ _ _ => trivial
  · rintro past _ ⟨line, rfl⟩
    exact logs past line
  · intro past c a begun _ _
    exact begun.trans (List.prefix_append past _)
  · intro _ logged begun
    rw [keeps_pure, keeps_bind, keeps_within]
    refine (keeps_question (asks _ _)).imp ?_ fun _ _ _ => trivial
    rintro validators _ ⟨_, rfl⟩
    have kept : ∀ e ∈ asked, e ∈ logged ++ [⟨.ask (.validators height), .ok validators⟩] :=
      fun e member => List.mem_append_left _ (begun.subset member)
    rw [keeps_pure]
    subst asked_eq
    exact ⟨kept _ (by simp), kept _ (by simp), kept _ (by simp), by simp⟩

theorem ordering_calls_of_uses {c : Effect} (made : c.uses ix.registry.uses) :
    ix.ordering.calls past c := by
  cases c with
  | perform op =>
      obtain ⟨m, member, used⟩ := List.any_eq_true.1 made
      cases m with
      | pruning config =>
          cases op with
          | prune boundary => exact fun retains => retains config member
          | storeLastPruned height => trivial
          | _ => cases used
      | _ => cases op <;> trivial
  | _ => trivial

theorem keeps_processBlock (ix : Indexer) :
    (ix.processBlock height).Keeps ix.ordering (fun _ _ => True) (fun _ _ => True) past := by
  unfold processBlock atStage
  rw [keeps_bind, keeps_within]
  refine (keeps_fetch (fun _ _ => trivial) fun _ _ => trivial).imp ?_ fun _ _ _ => trivial
  intro data fetched complete
  rw [keeps_bind, keeps_within, keeps_liftExcept]
  cases resolved : data.resolve with
  | error f => trivial
  | ok signatures =>
      change Keeps _ _ _ (_ >>= fun _ => _) fetched
      have agreed : ∀ later, fetched <+: later → ∀ op ∈ data.writes ix.operators signatures,
          ix.ordering.calls later (.perform op) := by
        intro later begun op member
        simp only [Fetched.writes, Transaction.writes, List.mem_append, List.mem_cons,
          List.mem_flatMap] at member
        rcases member with (rfl | rfl | rfl | none) | ⟨tx, sent, rfl | rfl | none⟩ <;>
          first | trivial | exact ⟨height, data, complete.mono begun, sent⟩
      rw [keeps_bind, keeps_within]
      refine (keeps_save agreed fun _ _ => trivial).extends.imp ?_ fun _ _ _ => trivial
      rintro _ saved ⟨begun, written⟩
      rw [keeps_bind]
      refine ((calls_callModules ix data).keeps (saved <+: ·) ?_ ?_ List.prefix_rfl).imp ?_
        fun _ _ _ => trivial
      · exact fun past c made => ordering_calls_of_uses made
      · intro past c a begun _ _
        exact begun.trans (List.prefix_append past _)
      · intro _ called begun'
        rw [keeps_within, keeps_within]
        refine (keeps_write ?_).imp (fun _ _ _ => trivial) fun _ _ _ => trivial
        refine ⟨height, data, signatures, complete.mono (begun.trans begun'), resolved, rfl, ?_⟩
        intro op member
        obtain ⟨a, done⟩ := History.mem_performed.1
          (written ▸ List.mem_append_right _ member : op ∈ saved.performed)
        exact History.mem_performed.2 ⟨a, begun'.subset done⟩

theorem keeps_processIfMissing (ix : Indexer) :
    (ix.processIfMissing height).Keeps ix.ordering (fun _ _ => True) (fun _ _ => True) past := by
  refine ix.abides_processIfMissing ?_ ?_ ?_ past
  · intro past c used
    cases c with
    | perform op => cases op <;> trivial
    | _ => trivial
  · exact fun _ => trivial
  · exact fun _ => ix.keeps_processBlock

theorem keeps_attempt (retains : ix.registry.Retains) (job : Job) :
    (job.attempt ix).Keeps ix.marking (fun _ _ => True) (fun _ _ => True) past := by
  refine job.abides_attempt ?_ ?_ ?_ past
  · intro past c used
    cases c with
    | perform op => cases op <;> trivial
    | _ => trivial
  · exact fun _ _ => trivial
  · exact fun worker _ _ => keeps_marking retains ({ ix with worker }.keeps_processBlock)

/-- A stored block row marks a height that is completely stored. Any number of attempts at any
heights may be interleaved in any way, the node may answer anything at any time, and the store may
refuse at any time: in every state that is reached, each block row was made from a block that some
attempt fetched, and all that was fetched with that block is stored. -/
theorem completion_marker (ix : Indexer) (retains : ix.registry.Retains) (jobs : List Job)
    (moves : List Move) :
    ∀ row ∈ ((Crew.start ix jobs).play moves).store.tables.blocks.rows,
      ∃ u ∈ ((Crew.start ix jobs).play moves).attempts,
        ∃ (height : Height) (data : Fetched), data.From height u.past ∧
          row = data.block.toRecord data.results.totalGas ∧
          data.Stored ix.operators ((Crew.start ix jobs).play moves).store.tables := by
  obtain ⟨log, shown⟩ : ∃ log, ((Crew.start ix jobs).play moves).Log log :=
    ⟨_, (Crew.log_start ix jobs).play moves⟩
  have lawful : ∀ u ∈ ((Crew.start ix jobs).play moves).attempts,
      u.Keeps ix.marking fun _ _ _ => True := by
    refine Crew.keeps_play (fun job _ => ?_) fun _ _ _ _ _ _ _ _ _ _ => trivial
    exact Program.Keeps.imp (fun _ _ h => h) (fun _ _ _ h => h) (fun _ _ _ => trivial)
      (keeps_attempt retains job)
  have keeps : ∀ op ∈ log, op.prunes = false := by
    intro op done
    obtain ⟨_, _, _, _, permitted⟩ := shown.agreed lawful done
    cases op <;> first | rfl | exact permitted.elim
  intro row stored
  rw [shown.tables] at stored ⊢
  obtain ⟨op, done, carried⟩ := Entry.exists_of_row?_eq_some (.block row.height)
    (Table.get?_eq_some_iff.2 ⟨stored, rfl⟩)
  cases op with
  | saveBlock saved =>
      obtain rfl : row = saved := by simpa using (List.mem_filter.1 carried).1
      obtain ⟨u, member, before, begun, height, data, signatures, complete, resolved, made, written⟩
        := shown.agreed lawful done
      refine ⟨u, member, height, data, complete.mono begun, made,
        Fetched.stored_of_writes resolved keeps ?_⟩
      intro op listed
      obtain ⟨a, passed⟩ := History.mem_performed.1 (written op listed)
      exact (shown.mem_iff op).2 ⟨u, member, History.mem_performed.2 ⟨a, begun.subset passed⟩⟩
  | _ => cases carried

/-- Two workers at one height. The store refuses the first one, and the second one gets there. -/
theorem completion_marker_quiet :
    ∃ crew, crew = (Crew.start quiet [⟨1, .index 1⟩, ⟨2, .index 1⟩]).play
        (World.quiet.moves [0, 1, 0, 1, 0, 0, 0, 0] ++
          ⟨0, .quiet, some Store.closedFault⟩ :: World.quiet.moves (List.replicate 40 1)) ∧
      quiet.registry.Retains ∧ crew.store.tables.blocks.size = 1 ∧
      ∀ row ∈ crew.store.tables.blocks.rows, ∃ u ∈ crew.attempts,
        ∃ (height : Height) (data : Fetched), data.From height u.past ∧
          row = data.block.toRecord data.results.totalGas ∧
          data.Stored quiet.operators crew.store.tables :=
  ⟨_, rfl, quiet_retains, by decide +kernel, completion_marker quiet quiet_retains _ _⟩

end Indexer
end ChainIndexer
