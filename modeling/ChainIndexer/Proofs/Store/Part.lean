import ChainIndexer.Proofs.Store.Run

/-! The tables of the store, one by one. An operation changes certain tables and is answered from
one at most, and what becomes of a table depends on no other. -/
namespace ChainIndexer

inductive Part where
  | blocks
  | txs
  | messages
  | commitSignatures
  | validators
  | descriptions
  | commissions
  | statuses
  | votingPowers
  | balances
  | averageBlockTimes
  | stakingPool
  | supply
  | inflation
  | ibcParams
  | genesis
  | lastPruned
  deriving DecidableEq

@[reducible] def Part.Content : Part → Type
  | blocks => Table BlockRecord.height
  | txs => Table Transaction.hash
  | messages => Table MessageRow.key
  | commitSignatures => Table CommitSignature.key
  | validators => Table Validator.consensusAddress
  | descriptions => Table ValidatorDescription.operatorAddress
  | commissions => Table ValidatorCommission.operatorAddress
  | statuses => Table ValidatorStatus.operatorAddress
  | votingPowers => Table ValidatorVotingPower.operatorAddress
  | balances => Table AccountBalance.address
  | averageBlockTimes => Table AverageBlockTime.period
  | stakingPool => Option StakingPool
  | supply => Option Supply
  | inflation => Option Inflation
  | ibcParams => Option IbcParams
  | genesis => Option Genesis
  | lastPruned => Option Height

def Tables.part (t : Tables) : (p : Part) → p.Content
  | .blocks => t.blocks
  | .txs => t.txs
  | .messages => t.messages
  | .commitSignatures => t.commitSignatures
  | .validators => t.validators
  | .descriptions => t.descriptions
  | .commissions => t.commissions
  | .statuses => t.statuses
  | .votingPowers => t.votingPowers
  | .balances => t.balances
  | .averageBlockTimes => t.averageBlockTimes
  | .stakingPool => t.stakingPool
  | .supply => t.supply
  | .inflation => t.inflation
  | .ibcParams => t.ibcParams
  | .genesis => t.genesis
  | .lastPruned => t.lastPruned

namespace Operation

/-- What an operation is answered from. -/
def consults : Operation → Option Part
  | hasBlock _ | lastBlockHeight | lastBlock | blockSince _ => some .blocks
  | validator _ => some .validators
  | genesis => some .genesis
  | lastPruned => some .lastPruned
  | _ => none

def changes : Operation → Part → Bool
  | saveBlock _, .blocks | saveTx _, .txs | saveMessages _, .messages
  | saveCommitSignatures _, .commitSignatures | saveValidators _, .validators
  | saveDescriptions _, .descriptions | saveCommissions _, .commissions
  | saveStatuses _, .statuses | saveVotingPowers _, .votingPowers | saveBalances _, .balances
  | saveAverageBlockTime _, .averageBlockTimes | saveStakingPool _, .stakingPool
  | saveSupply _, .supply | saveInflation _, .inflation | saveIbcParams _, .ibcParams
  | saveGenesis _, .genesis | storeLastPruned _, .lastPruned => true
  | prune _, .blocks | prune _, .txs | prune _, .messages | prune _, .commitSignatures => true
  | _, _ => false

theorem answer_congr (op : Operation) {t u : Tables}
    (same : ∀ p, op.consults = some p → t.part p = u.part p) : op.answer t = op.answer u := by
  cases op with
  | hasBlock _ | lastBlockHeight | lastBlock | blockSince _ =>
      have blocks : t.blocks = u.blocks := same .blocks rfl
      simp only [answer, Tables.blockSince, blocks]
  | validator address =>
      have validators : t.validators = u.validators := same .validators rfl
      simp only [answer, validators]
  | genesis => exact same .genesis rfl
  | lastPruned => exact same .lastPruned rfl
  | _ => rfl

theorem part_effect {op : Operation} {p : Part} (kept : op.changes p = false) (t : Tables) :
    (op.effect t).part p = t.part p := by
  cases op <;> cases p <;> first | rfl | cases kept

theorem part_effect_congr (op : Operation) {p : Part} {t u : Tables} (same : t.part p = u.part p) :
    (op.effect t).part p = (op.effect u).part p := by
  cases p <;> simp only [Tables.part] at same <;> cases op <;>
    simp only [effect, Tables.part, Tables.prune, same]

end Operation

namespace Tables

variable {p : Part}

theorem part_after_congr {t u : Tables} (same : t.part p = u.part p) (ops : List Operation) :
    (t.after ops).part p = (u.after ops).part p := by
  induction ops generalizing t u with
  | nil => exact same
  | cons op ops ih => exact ih (op.part_effect_congr same)

theorem part_after_filter (p : Part) (ops : List Operation) (t : Tables) :
    (t.after (ops.filter (·.changes p))).part p = (t.after ops).part p := by
  induction ops generalizing t with
  | nil => rfl
  | cons op ops ih =>
      cases changes : op.changes p with
      | true =>
          rw [List.filter_cons, if_pos changes]
          exact ih _
      | false =>
          rw [List.filter_cons, if_neg (Bool.eq_false_iff.1 changes), ih, after_cons]
          exact part_after_congr (op.part_effect changes t).symm ops

theorem part_after {ops : List Operation} (kept : ∀ op ∈ ops, op.changes p = false)
    (t : Tables) : (t.after ops).part p = t.part p := by
  have none : ops.filter (·.changes p) = [] :=
    List.filter_eq_nil_iff.2 fun op member => by simp [kept op member]
  rw [← part_after_filter, none, after_nil]

end Tables

namespace Store

/-- Both are open or both are closed, and certain tables are the same. -/
structure Agree (parts : Part → Prop) (s s' : Store) : Prop where
  closed : s.closed = s'.closed
  part : ∀ p, parts p → s.tables.part p = s'.tables.part p

variable {parts : Part → Prop} {s s' : Store} {op : Operation}

theorem Agree.refl (parts : Part → Prop) (s : Store) : s.Agree parts s := ⟨rfl, fun _ _ => rfl⟩

theorem perform_closed (shut : s.closed = true) (op : Operation) : (s.perform op).2 = s := by
  by_cases refused : s.refuses op = true
  · rw [perform_refused refused]
  · obtain ⟨tables, closed⟩ := s
    obtain rfl : closed = true := shut
    have accepted : op.acceptedWhenClosed = true := by simpa [refuses] using refused
    have empty {ρ : Type} {rows : List ρ} (none : rows.isEmpty = true) : rows = [] :=
      List.isEmpty_iff.1 none
    cases op <;>
      first
      | exact Bool.noConfusion accepted
      | rfl
      | (cases empty accepted; rfl)

theorem answered_closed (shut : s.closed = true) (shut' : s'.closed = true) (op : Operation) :
    (s.perform op).1 = (s'.perform op).1 := by
  have same : s.refuses op = s'.refuses op := by rw [refuses, refuses, shut, shut']
  by_cases refused : s.refuses op = true
  · rw [perform_refused refused, perform_refused (same ▸ refused)]
  · rw [(perform_accepted refused).1, (perform_accepted (same ▸ refused)).1]
    have accepted : op.acceptedWhenClosed = true := by simpa [refuses, shut] using refused
    cases op <;> first | rfl | exact Bool.noConfusion accepted

theorem closed_perform (leaves : op ≠ .close) : (s.perform op).2.closed = s.closed := by
  cases closed : s.closed with
  | true => rw [perform_closed closed, closed]
  | false => rw [perform_opened closed leaves]

theorem part_perform {p : Part} (kept : op.changes p = false) :
    (s.perform op).2.tables.part p = s.tables.part p := by
  by_cases refused : s.refuses op = true
  · rw [perform_refused refused]
  · rw [(perform_accepted refused).2, Operation.part_effect kept]

/-- Stores that agree on what an operation is answered from give the same answer and agree as
before. -/
theorem Agree.perform (h : s.Agree parts s') (op : Operation)
    (known : ∀ p, op.consults = some p → parts p) :
    (s.perform op).1 = (s'.perform op).1 ∧ (s.perform op).2.Agree parts (s'.perform op).2 := by
  have same : s.refuses op = s'.refuses op := by rw [refuses, refuses, h.closed]
  by_cases refused : s.refuses op = true
  · rw [perform_refused refused, perform_refused (same ▸ refused)]
    exact ⟨rfl, h⟩
  · have accepts : s.perform op = (.ok (op.answer s.tables), _) := if_neg refused
    have accepts' : s'.perform op = (.ok (op.answer s'.tables), _) := if_neg (same ▸ refused)
    have answered : op.answer s.tables = op.answer s'.tables :=
      op.answer_congr fun p consulted => h.part p (known p consulted)
    rw [accepts, accepts', answered]
    refine ⟨rfl, ?_, ?_⟩
    · rw [h.closed]
    · exact fun p listed => op.part_effect_congr (h.part p listed)

end Store
end ChainIndexer
