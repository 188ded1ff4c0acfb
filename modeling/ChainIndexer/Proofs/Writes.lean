import ChainIndexer.Indexer
import ChainIndexer.Proofs.Footprint
import ChainIndexer.Proofs.Steps

/-! What is written for a height before the modules are called, and that all of it is written,
in this order, before anything comes after. -/
namespace ChainIndexer

def Transaction.writes (tx : Transaction) : List Operation :=
  [.saveTx tx, .saveMessages tx.messageRows]

def Operation.savesTransaction : Operation → Bool
  | saveTx _ | saveMessages _ => true
  | _ => false

/-- What is done for the genesis state, and to transactions alone. -/
def Operation.sidesteps (op : Operation) : Bool := op.servesGenesis || op.savesTransaction

/-- What is written for a height, but for the modules and the block's own row. -/
def Fetched.writes (data : Fetched) (operators : List Operator)
    (signatures : List CommitSignature) : List Operation :=
  let rows := correlate operators data.validators
  [.saveValidators rows.validators, .saveDescriptions rows.descriptions,
    .saveCommitSignatures signatures] ++ data.txs.flatMap Transaction.writes

namespace Indexer

open Attempt

variable {k : Contract} {height : Height}

theorem keeps_saveTransaction {tx : Transaction} {past : History}
    (agreed : ∀ later, past <+: later → ∀ op ∈ tx.writes, k.calls later (.perform op))
    (logs : ∀ past line, k.calls past (.log line)) :
    (saveTransaction height tx).Keeps k
      (fun _ later => later.performed = past.performed ++ tx.writes) (fun _ _ => k.Refuses)
      past := by
  have both : Keeps k (fun _ later => later.performed = past.performed ++ tx.writes)
      (fun _ _ => k.Refuses) (do perform (.saveTx tx); perform (.saveMessages tx.messageRows))
      past := by
    rw [keeps_bind]
    refine (keeps_write (agreed past List.prefix_rfl _ (.head _))).extends.imp ?_
      fun _ _ refused => refused.2
    rintro _ between ⟨begun, written⟩
    refine (keeps_write (agreed between begun _ (.tail _ (.head _)))).imp ?_
      fun _ _ refused => refused
    intro _ later written'
    rw [written', written]
    exact List.append_assoc _ _ _
  unfold saveTransaction
  rw [keeps_bind, keeps_outcome]
  refine both.imp (fun _ _ written => written) ?_
  intro f later refused
  rw [keeps_bind, keeps_log]
  exact ⟨logs _ _, fun _ _ => refused⟩

theorem keeps_saveTransactions {txs : List Transaction} {past : History}
    (agreed : ∀ later, past <+: later →
      ∀ op ∈ txs.flatMap Transaction.writes, k.calls later (.perform op))
    (logs : ∀ past line, k.calls past (.log line)) :
    (saveTransactions height txs).Keeps k
      (fun _ later => later.performed = past.performed ++ txs.flatMap Transaction.writes)
      (fun _ _ => k.Refuses) past := by
  induction txs generalizing past with
  | nil => exact (List.append_nil _).symm
  | cons tx txs ih =>
      change Keeps k _ _ (saveTransaction height tx >>= fun _ => saveTransactions height txs) past
      rw [keeps_bind, List.flatMap_cons]
      rw [List.flatMap_cons] at agreed
      refine (keeps_saveTransaction
        (fun later begun op member => agreed later begun op (List.mem_append_left _ member))
        logs).extends.imp ?_ fun _ _ refused => refused.2
      rintro _ between ⟨begun, written⟩
      refine (ih fun later begun' op member =>
        agreed later (begun.trans begun') op (List.mem_append_right _ member)).imp ?_
        fun _ _ refused => refused
      intro _ later written'
      rw [written', written, List.append_assoc]

/-- Either everything is written, or the store refused. The validators come first, so that all
other writes may count on them. -/
theorem keeps_save_after_validators {data : Fetched} {operators : List Operator}
    {signatures : List CommitSignature} {past : History}
    (first : k.calls past
      (.perform (.saveValidators (correlate operators data.validators).validators)))
    (agreed : ∀ later : History, past <+: later →
      .saveValidators (correlate operators data.validators).validators ∈ later.performed →
      ∀ op ∈ data.writes operators signatures, k.calls later (.perform op))
    (logs : ∀ past line, k.calls past (.log line)) :
    (save height (correlate operators data.validators) signatures data.txs).Keeps k
      (fun _ later => later.performed = past.performed ++ data.writes operators signatures)
      (fun _ _ => k.Refuses) past := by
  unfold save
  rw [keeps_bind, keeps_within]
  refine (keeps_write first).extends.imp ?_ fun _ _ refused => refused.2
  rintro _ saved ⟨begun, validators⟩
  have agreed (later : History) (goes : saved <+: later) (op : Operation)
      (member : op ∈ data.writes operators signatures) : k.calls later (.perform op) := by
    refine agreed later (begun.trans goes) ?_ op member
    obtain ⟨a, passed⟩ := History.mem_performed.1
      (validators ▸ List.mem_append_right _ (List.mem_singleton_self _))
    exact History.mem_performed.2 ⟨a, goes.subset passed⟩
  rw [keeps_bind, keeps_within]
  refine (keeps_write (agreed saved List.prefix_rfl _ (.tail _ (.head _)))).extends.imp ?_
    fun _ _ refused => refused.2
  rintro _ second ⟨begun, descriptions⟩
  rw [keeps_bind, keeps_within]
  refine (keeps_write (agreed second begun _ (.tail _ (.tail _ (.head _))))).extends.imp ?_
    fun _ _ refused => refused.2
  rintro _ third ⟨goes, signed⟩
  have begun := begun.trans goes
  refine (keeps_saveTransactions (fun later begun' op member =>
    agreed later (begun.trans begun') op (List.mem_append_right _ member)) logs).imp ?_
    fun _ _ refused => refused
  intro _ later sent
  rw [sent, signed, descriptions, validators]
  simp [Fetched.writes]

theorem keeps_save {data : Fetched} {operators : List Operator}
    {signatures : List CommitSignature} {past : History}
    (agreed : ∀ later, past <+: later →
      ∀ op ∈ data.writes operators signatures, k.calls later (.perform op))
    (logs : ∀ past line, k.calls past (.log line)) :
    (save height (correlate operators data.validators) signatures data.txs).Keeps k
      (fun _ later => later.performed = past.performed ++ data.writes operators signatures)
      (fun _ _ => k.Refuses) past :=
  keeps_save_after_validators (agreed past List.prefix_rfl _ (.head _))
    (fun later begun _ => agreed later begun) logs

theorem calls_fetchTransactions (b : Block) :
    (fetchTransactions b).Calls (Effect.uses fun _ => false) := by
  apply calls_bind (calls_within _ (calls_ask trivial))
  intro txs
  exact calls_bind (calls_forM _ fun _ => calls_log trivial) fun _ => calls_pure _

theorem calls_fetch : (fetch height).Calls (Effect.uses fun _ => false) := by
  apply calls_bind (calls_within _ (calls_ask trivial))
  intro block
  apply calls_bind (calls_within _ (calls_ask trivial))
  intro results
  apply calls_bind (calls_fetchTransactions block)
  intro txs
  exact calls_bind (calls_within _ (calls_ask trivial)) fun _ => calls_pure _

theorem calls_saveTransaction (tx : Transaction) :
    (saveTransaction height tx).Calls (Effect.uses Operation.savesTransaction) := by
  apply calls_bind
  · exact calls_outcome (calls_bind (calls_perform rfl) fun _ => calls_perform rfl)
  · intro saved
    cases saved with
    | ok _ => exact calls_pure _
    | error f => exact calls_bind (calls_log trivial) fun _ => calls_liftExcept (.error _)

theorem calls_processTransactions :
    (processTransactions height).Calls (Effect.uses Operation.savesTransaction) := by
  have asks {α : Type} {p : Attempt α} (h : p.Calls (Effect.uses fun _ => false)) :
      p.Calls (Effect.uses Operation.savesTransaction) :=
    h.imp fun c used => used.imp fun _ => nofun
  apply calls_bind (calls_within _ (calls_ask trivial))
  intro block
  apply calls_bind (asks (calls_fetchTransactions block))
  intro txs
  exact calls_forM _ fun tx => calls_saveTransaction tx

theorem calls_callModules (ix : Indexer) (data : Fetched) :
    (ix.callModules height data).Calls (Effect.uses ix.registry.uses) := by
  refine calls_bind (ix.registry.calls_dispatchBlock _) fun failures => ?_
  split
  · exact calls_log trivial
  · exact calls_pure _

theorem calls_processGenesis (ix : Indexer) :
    ix.processGenesis.Calls (Effect.uses ix.registry.usesAtGenesis) := by
  refine calls_bind (calls_within _ ?_) fun doc => ?_
  · unfold readGenesis
    split
    · exact calls_ask trivial
    · refine calls_bind (calls_load trivial) fun contents => ?_
      cases contents with
      | ok bytes => exact calls_liftExcept _
      | error reason => exact calls_liftExcept (.error _)
  · refine calls_bind (ix.registry.calls_dispatchGenesis doc) fun failures => ?_
    split
    · exact calls_log trivial
    · exact calls_pure _

/-! What an attempt keeps to, if it does so where a block is indexed. -/

theorem abides_process (ix : Indexer)
    (genesis : ∀ past c, c.uses Operation.servesGenesis → k.calls past c)
    (block : (ix.processBlock height).Abides k) : (ix.process height).Abides k := by
  unfold process
  split
  · apply ix.calls_processGenesis.abides
    intro past c used
    exact genesis past c (used.imp fun _ => Registry.servesGenesis)
  · exact block

theorem abides_processIfMissing (ix : Indexer)
    (genesis : ∀ past c, c.uses Operation.servesGenesis → k.calls past c)
    (looks : ∀ past, k.calls past (.perform (.hasBlock height)))
    (block : (ix.processBlock height).Abides k) : (ix.processIfMissing height).Abides k := by
  unfold processIfMissing
  split
  · exact ix.abides_process genesis block
  · apply abides_bind (abides_within (abides_perform looks))
    intro stored
    split
    · exact fun _ => trivial
    · exact ix.abides_process genesis block

end Indexer
end ChainIndexer
