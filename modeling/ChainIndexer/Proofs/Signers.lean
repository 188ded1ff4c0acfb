import ChainIndexer.Proofs.Identity
import ChainIndexer.Proofs.Store.Entry

/-! Signers of stored commits. A signer is looked up in the validator set of the chain, but a
validator is stored only if the list of operators names it. So the store knows the operator of a
signer exactly if the list does, and a signer that the list leaves out has signatures in the store
and no validator there. -/
namespace ChainIndexer

def Operation.sparesSigners : Operation → Bool
  | saveValidators _ | saveCommitSignatures _ => false
  | _ => true

/-- Whoever signed is in the set, and among the validators to be stored if the list names an
operator. -/
theorem Fetched.exists_validator_of_signature {data : Fetched} {operators : List Operator}
    {signatures : List CommitSignature} (resolved : data.resolve = .ok signatures)
    {row : CommitSignature} (signed : row ∈ signatures) {operator : Operator}
    (listed : findOperator operators row.validatorAddress = some operator) :
    ∃ v ∈ (correlate operators data.validators).validators,
      v.consensusAddress = row.validatorAddress := by
  unfold resolve at resolved
  split at resolved
  · cases resolved
  · obtain ⟨entry, _, made⟩ := mem_of_mapM_eq_ok resolved row signed
    unfold ValidatorSet.signature at made
    split at made
    · cases made
    · rename_i v found
      cases made
      have address : v.address = entry.validatorAddress := by simpa using List.find?_some found
      have operated : ⟨v, operator⟩ ∈ data.validators.operated operators := by
        refine List.mem_filterMap.2 ⟨v, List.mem_of_find?_eq_some found, ?_⟩
        rw [address, listed]
        rfl
      exact ⟨_, List.mem_map_of_mem operated, congrArg ConsensusAddress.ofRaw address⟩

namespace Indexer

open Attempt

/-- Validators are saved with the operators that the list gives them, and a signature whose signer
the list names only after this signer. The node may say anything, and the store may refuse. -/
def signing (ix : Indexer) : Contract where
  calls past
    | .perform (.saveValidators rows) =>
      ∀ row ∈ rows, Names ix.operators row.operatorAddress row.consensusAddress
    | .perform (.saveCommitSignatures rows) =>
      ∀ row ∈ rows, ∀ operator, findOperator ix.operators row.validatorAddress = some operator →
        ∃ saved, .saveValidators saved ∈ past.performed ∧
          ∃ v ∈ saved, v.consensusAddress = row.validatorAddress
    | _ => True
  answers _ _ _ := True

variable {ix : Indexer} {height : Height}

theorem signing_of_calls {α : Type} {used : Operation → Bool} {p : Attempt α}
    (calls : p.Calls (Effect.uses used))
    (spares : ∀ op, used op = true → op.sparesSigners = true) : p.Abides ix.signing := by
  apply calls.abides
  intro past c made
  cases c with
  | perform op =>
      have spared := spares op made
      cases op <;> trivial
  | _ => trivial

theorem signing_save {data : Fetched} {signatures : List CommitSignature}
    (resolved : data.resolve = .ok signatures) :
    (save height (correlate ix.operators data.validators) signatures data.txs).Abides
      ix.signing := by
  have written : Operation.saveValidators (correlate ix.operators data.validators).validators ∈
      data.writes ix.operators signatures := .head _
  have names := Fetched.writes_identify _ written
  intro past
  apply (keeps_save_after_validators names ?_ fun _ _ => trivial).imp
  · intro _ _ _
    trivial
  · intro _ _ _
    trivial
  · intro later _ saved op member
    simp only [Fetched.writes, Transaction.writes, List.mem_append, List.mem_cons,
      List.mem_flatMap] at member
    rcases member with (rfl | rfl | rfl | none) | ⟨tx, _, rfl | rfl | none⟩
    · exact names
    · trivial
    · intro row signed operator listed
      exact ⟨_, saved, Fetched.exists_validator_of_signature resolved signed listed⟩
    · cases none
    · trivial
    · trivial
    · cases none

theorem signing_processBlock (ix : Indexer) :
    (ix.processBlock height).Abides ix.signing := by
  apply abides_bind (abides_within (signing_of_calls calls_fetch nofun))
  intro data past
  unfold atStage
  rw [keeps_bind, keeps_within, keeps_liftExcept]
  cases resolved : data.resolve with
  | error f => trivial
  | ok signatures =>
      refine abides_bind (abides_within (signing_save resolved)) (fun _ => ?_) past
      apply abides_bind
      · apply signing_of_calls (calls_callModules ix data)
        intro op used
        obtain ⟨m, _, used⟩ := List.any_eq_true.1 used
        cases m <;> cases op <;> first | rfl | cases used
      · intro _
        apply abides_within
        apply abides_within
        exact abides_perform fun _ => trivial

theorem signing_attempt (ix : Indexer) (job : Job) : (job.attempt ix).Abides ix.signing := by
  apply job.abides_attempt
  · intro past c used
    cases c with
    | perform op => cases op <;> trivial
    | _ => trivial
  · exact fun _ _ => trivial
  · exact fun worker _ => { ix with worker }.signing_processBlock

end Indexer

namespace Crew

variable {ix : Indexer} {crew : Crew} {log : List Operation}

theorem Log.names (shown : crew.Log log)
    (lawful : ∀ u ∈ crew.attempts, u.Keeps ix.signing fun _ _ _ => True)
    {address : ConsensusAddress} {v : Validator}
    (stored : (({} : Tables).after log).validators.get? address = some v) :
    Names ix.operators v.operatorAddress address := by
  obtain ⟨op, done, carried⟩ := Slot.exists_of_row?_eq_some (.validator address) stored
  cases op with
  | saveValidators rows =>
      obtain ⟨_, _, _, _, names⟩ := shown.agreed lawful done
      exact (Table.get?_eq_some_iff.1 stored).2 ▸ names v (List.mem_filter.1 carried).1
  | _ => cases carried

theorem Log.exists_validator (shown : crew.Log log)
    (lawful : ∀ u ∈ crew.attempts, u.Keeps ix.signing fun _ _ _ => True) {row : CommitSignature}
    (signed : row ∈ (({} : Tables).after log).commitSignatures.rows) {operator : Operator}
    (listed : findOperator ix.operators row.validatorAddress = some operator) :
    ∃ v, (({} : Tables).after log).validators.get? row.validatorAddress = some v := by
  obtain ⟨op, done, carried⟩ := Entry.exists_of_row?_eq_some (.signature row.key)
    (Table.get?_eq_some_iff.2 ⟨signed, rfl⟩)
  cases op with
  | saveCommitSignatures rows =>
      obtain ⟨u, member, before, begun, after⟩ := shown.agreed lawful done
      obtain ⟨saved, performed, v, known, address⟩ :=
        after row (List.mem_filter.1 carried).1 operator listed
      obtain ⟨a, passed⟩ := History.mem_performed.1 performed
      have done : .saveValidators saved ∈ log :=
        (shown.mem_iff _).2 ⟨u, member, History.mem_performed.2 ⟨a, begun.subset passed⟩⟩
      obtain ⟨stored, present, _⟩ := Slot.exists_of_mem (.validator row.validatorAddress) done
        (List.mem_filter.2 ⟨known, by simpa using address⟩)
      exact ⟨stored, present⟩
  | _ => cases carried

/-- The store resolves its signers as the list of operators does. Workers may be given anything to
do, their calls may be interleaved in any way, the node may answer anything at any time, and the
store may refuse at any time: in every state that is reached, the signer of a stored signature is
stored as a validator, with the operator that comes first in the list for its address, if the list
names one; and if it names none, the signer is not stored as a validator. -/
theorem signers_resolve_as_listed (ix : Indexer) (jobs : List Job) (moves : List Move) :
    ∀ row ∈ ((start ix jobs).play moves).store.tables.commitSignatures.rows,
      (((start ix jobs).play moves).store.tables.validators.get? row.validatorAddress).map
          (·.operatorAddress) =
        (findOperator ix.operators row.validatorAddress).map (·.operatorAddress) := by
  obtain ⟨log, shown⟩ : ∃ log, ((start ix jobs).play moves).Log log :=
    ⟨_, (log_start ix jobs).play moves⟩
  have lawful : ∀ u ∈ ((start ix jobs).play moves).attempts,
      u.Keeps ix.signing fun _ _ _ => True := by
    refine keeps_play (fun job _ => ?_) fun _ _ _ _ _ _ _ _ _ _ => trivial
    exact Program.Keeps.imp (fun _ _ h => h) (fun _ _ _ h => h) (fun _ _ _ => trivial)
      (ix.signing_attempt job [])
  intro row signed
  rw [shown.tables] at signed ⊢
  cases stored : (({} : Tables).after log).validators.get? row.validatorAddress with
  | some v =>
      obtain ⟨operator, listed, same⟩ := shown.names lawful stored
      rw [listed, Option.map_some, Option.map_some, same]
  | none =>
      cases listed : findOperator ix.operators row.validatorAddress with
      | none => rfl
      | some operator =>
          obtain ⟨v, present⟩ := shown.exists_validator lawful signed listed
          cases stored.symm.trans present

/-- Height one of the quiet chain is signed by a validator whom the list names. -/
theorem signers_resolve_as_listed_quiet :
    ∃ crew, crew = (start .quiet [⟨0, .index 1⟩]).play
        (World.quiet.moves (List.replicate 40 0)) ∧
      ∃ row ∈ crew.store.tables.commitSignatures.rows,
        (findOperator Indexer.quiet.operators row.validatorAddress).isSome = true ∧
        (crew.store.tables.validators.get? row.validatorAddress).map (·.operatorAddress) =
          (findOperator Indexer.quiet.operators row.validatorAddress).map
            (·.operatorAddress) := by
  have signed : ∃ row ∈ ((start .quiet [⟨0, .index 1⟩]).play
      (World.quiet.moves (List.replicate 40 0))).store.tables.commitSignatures.rows,
      (findOperator Indexer.quiet.operators row.validatorAddress).isSome = true := by
    decide +kernel
  obtain ⟨row, stored, listed⟩ := signed
  exact ⟨_, rfl, row, stored, listed, signers_resolve_as_listed _ _ _ row stored⟩

end Crew

def Indexer.unlisted : Indexer := { Indexer.quiet with operators := [] }

namespace Crew

/-- Height one is indexed, by whoever knows no operator: the validator's signature is stored, and
the validator is not. -/
theorem signer_without_validator :
    ∃ crew, crew = (start .unlisted [⟨0, .index 1⟩]).play
        (World.quiet.moves (List.replicate 40 0)) ∧
      crew.Ended ∧ crew.store.tables.blocks.contains 1 = true ∧
      ∃ row ∈ crew.store.tables.commitSignatures.rows,
        crew.store.tables.validators.get? row.validatorAddress = none := by
  refine ⟨_, rfl, by decide +kernel, by decide +kernel, ?_⟩
  decide +kernel

end Crew
end ChainIndexer
