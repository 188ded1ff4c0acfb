import ChainIndexer.Proofs.Crew
import ChainIndexer.Proofs.Store.Slot
import ChainIndexer.Proofs.Writes

/-! Stable identities. Four tables pair a consensus address with an operator. Two of them are
written from what was fetched, the others from identities that are read back from the store, where
any height may have written them. Whatever comes in between, the operator is the one that the list
of operators gives for the address. -/
namespace ChainIndexer

/-- The list names this operator for an address. -/
def Names (operators : List Operator) (operatorAddress : String) (address : ConsensusAddress) :
    Prop :=
  ∃ operator, findOperator operators address = some operator ∧
    operatorAddress = operator.operatorAddress

/-- Every row that pairs an address with an operator is as the list has it. -/
structure Tables.Identified (operators : List Operator) (t : Tables) : Prop where
  validators : ∀ row ∈ t.validators.rows, Names operators row.operatorAddress row.consensusAddress
  descriptions : ∀ row ∈ t.descriptions.rows,
    Names operators row.operatorAddress row.consensusAddress
  statuses : ∀ row ∈ t.statuses.rows, Names operators row.operatorAddress row.consensusAddress
  votingPowers : ∀ row ∈ t.votingPowers.rows,
    Names operators row.operatorAddress row.consensusAddress

def Operation.Identifies (operators : List Operator) : Operation → Prop
  | saveValidators rows => ∀ row ∈ rows, Names operators row.operatorAddress row.consensusAddress
  | saveDescriptions rows => ∀ row ∈ rows, Names operators row.operatorAddress row.consensusAddress
  | saveStatuses rows => ∀ row ∈ rows, Names operators row.operatorAddress row.consensusAddress
  | saveVotingPowers rows => ∀ row ∈ rows, Names operators row.operatorAddress row.consensusAddress
  | _ => True

theorem Tables.identified_after {operators : List Operator} {log : List Operation}
    (h : ∀ op ∈ log, op.Identifies operators) : (({} : Tables).after log).Identified operators := by
  constructor
  · intro row stored
    obtain ⟨op, done, carried⟩ := Slot.exists_of_row?_eq_some (.validator row.consensusAddress)
      (Table.get?_eq_some_iff.2 ⟨stored, rfl⟩)
    cases op with
    | saveValidators rows => exact h _ done row (List.mem_filter.1 carried).1
    | _ => cases carried
  · intro row stored
    obtain ⟨op, done, carried⟩ := Slot.exists_of_row?_eq_some (.description row.operatorAddress)
      (Table.get?_eq_some_iff.2 ⟨stored, rfl⟩)
    cases op with
    | saveDescriptions rows => exact h _ done row (List.mem_filter.1 carried).1
    | _ => cases carried
  · intro row stored
    obtain ⟨op, done, carried⟩ := Slot.exists_of_row?_eq_some (.status row.operatorAddress)
      (Table.get?_eq_some_iff.2 ⟨stored, rfl⟩)
    cases op with
    | saveStatuses rows => exact h _ done row (List.mem_filter.1 carried).1
    | _ => cases carried
  · intro row stored
    obtain ⟨op, done, carried⟩ := Slot.exists_of_row?_eq_some (.votingPower row.operatorAddress)
      (Table.get?_eq_some_iff.2 ⟨stored, rfl⟩)
    cases op with
    | saveVotingPowers rows => exact h _ done row (List.mem_filter.1 carried).1
    | _ => cases carried

theorem OperatedValidator.names {operators : List Operator} {set : ValidatorSet}
    {v : OperatedValidator} (member : v ∈ set.operated operators) :
    Names operators v.operator.operatorAddress (.ofRaw v.validator.address) := by
  obtain ⟨_, _, paired⟩ := List.mem_filterMap.1 member
  obtain ⟨operator, found, rfl⟩ := Option.map_eq_some_iff.1 paired
  exact ⟨operator, found, rfl⟩

theorem Fetched.writes_identify {data : Fetched} {operators : List Operator}
    {signatures : List CommitSignature} :
    ∀ op ∈ data.writes operators signatures, op.Identifies operators := by
  intro op member
  simp only [Fetched.writes, Transaction.writes, List.mem_append, List.mem_cons,
    List.mem_flatMap] at member
  rcases member with (rfl | rfl | rfl | none) | ⟨tx, _, rfl | rfl | none⟩
  · intro row listed
    obtain ⟨v, operated, rfl⟩ := List.mem_map.1 listed
    exact OperatedValidator.names operated
  · intro row listed
    obtain ⟨v, operated, rfl⟩ := List.mem_map.1 listed
    exact OperatedValidator.names operated
  · trivial
  · cases none
  · trivial
  · trivial
  · cases none

namespace Indexer

open Attempt

/-- Only rows that agree with the list are written, and the store answers, if it does, from tables
that agree with it. Nothing else is agreed on: the node may say anything. -/
def identifying (ix : Indexer) : Contract where
  calls _
    | .perform op => op.Identifies ix.operators
    | _ => True
  answers _
    | .perform op, a => ∃ t : Tables, t.Identified ix.operators ∧
      ∀ value, a = .ok value → value = op.answer t
    | _, _ => True

variable {ix : Indexer} {height : Height} {past : History}

def Identifying {α : Type} (ix : Indexer) (p : Attempt α) : Prop :=
  ∀ past, p.Keeps ix.identifying (fun _ _ => True) (fun _ _ => True) past

theorem identifying_of_calls {α : Type} {used : Operation → Bool} {p : Attempt α}
    (calls : p.Calls (Effect.uses used))
    (identify : ∀ op, used op = true → op.Identifies ix.operators) : ix.Identifying p := by
  apply calls.abides
  intro past c made
  cases c with
  | perform op => exact identify op made
  | _ => trivial

theorem identifying_asking {α : Type} {p : Attempt α}
    (asks : p.Calls (Effect.uses fun _ => false)) : ix.Identifying p :=
  identifying_of_calls asks nofun

theorem identifying_bind {α β : Type} {p : Attempt α} {f : α → Attempt β}
    (first : ix.Identifying p) (rest : ∀ value, ix.Identifying (f value)) :
    ix.Identifying (p >>= f) := abides_bind first rest

theorem identifying_within {α : Type} {doing : String} {p : Attempt α} (h : ix.Identifying p) :
    ix.Identifying (within doing p) := abides_within h

theorem identifying_perform {op : Operation} (identifies : op.Identifies ix.operators) :
    ix.Identifying (perform op) := abides_perform fun _ => identifies

def Known (operators : List Operator) (known : ChainValidator × Validator) : Prop :=
  Names operators known.2.operatorAddress (.ofRaw known.1.address)

theorem keeps_identify (v : ChainValidator) :
    (Staking.identify v).Keeps ix.identifying
      (fun found _ => ∀ known, found = some known → Known ix.operators known)
      (fun _ _ => True) past := by
  unfold Staking.identify
  rw [keeps_bind, keeps_perform]
  refine ⟨trivial, ?_⟩
  rintro answer ⟨t, identified, answered⟩
  cases answer with
  | error f => trivial
  | ok found =>
      intro known paired
      obtain ⟨row, stored, rfl⟩ := Option.map_eq_some_iff.1 paired
      have read : found = t.validators.get? (.ofRaw v.address) := answered found rfl
      rw [read] at stored
      obtain ⟨listed, address⟩ := Table.get?_eq_some_iff.1 stored
      have names := identified.validators row listed
      rw [address] at names
      exact names

theorem keeps_identifyAll (vs : List ChainValidator) :
    (Staking.identifyAll vs).Keeps ix.identifying
      (fun found _ => ∀ known ∈ found, Known ix.operators known) (fun _ _ => True) past := by
  induction vs generalizing past with
  | nil =>
      intro known none
      cases none
  | cons v vs ih =>
      unfold Staking.identifyAll
      rw [keeps_bind]
      apply (keeps_identify v).imp
      · intro found between names
        cases found with
        | none => exact ih
        | some known =>
            change Attempt.Keeps _ _ _ (_ >>= fun _ => _) _
            rw [keeps_bind]
            apply ih.imp
            · intro others later rest known' member
              rcases List.mem_cons.1 member with rfl | member
              · exact names _ rfl
              · exact rest known' member
            · intro _ _ _
              trivial
      · intro _ _ _
        trivial

theorem identifying_staking (data : BlockData) : ix.Identifying (Staking.handleBlock data) := by
  unfold Staking.handleBlock
  apply identifying_bind
  · exact identifying_within (identifying_asking (calls_ask trivial))
  intro pool
  apply identifying_bind
  · exact identifying_perform trivial
  intro _ past
  rw [keeps_bind]
  apply (keeps_identifyAll _).imp
  · intro found between known
    have powers : Operation.Identifies ix.operators
        (.saveVotingPowers (found.map (Staking.votingPower data.height))) := by
      intro row listed
      obtain ⟨pair, member, rfl⟩ := List.mem_map.1 listed
      exact known pair member
    have statuses : Operation.Identifies ix.operators
        (.saveStatuses (found.map (Staking.status data.height))) := by
      intro row listed
      obtain ⟨pair, member, rfl⟩ := List.mem_map.1 listed
      exact known pair member
    exact identifying_bind (identifying_perform powers) (fun _ => identifying_perform statuses) _
  · intro _ _ _
    trivial

theorem identifying_blockHandler {m : Module} {handler : BlockData → Attempt Unit}
    (own : m.blockHandler? = some handler) (data : BlockData) : ix.Identifying (handler data) := by
  by_cases staking : m = .staking
  · subst staking
    cases own
    exact identifying_staking data
  · apply identifying_of_calls (Module.calls_blockHandler own data)
    intro op used
    cases m <;> first | exact absurd rfl staking | (cases op <;> trivial)

theorem identifying_callModules (data : Fetched) :
    ix.Identifying (ix.callModules height data) := by
  apply identifying_bind
  · intro past
    apply (Registry.keeps_dispatch (fun _ _ => True) ?_ ?_ trivial).imp
    · intro _ _ _
      trivial
    · intro _ _ _
      trivial
    · intro m _ ms past _
      cases own : m.blockHandler? with
      | none => trivial
      | some handler => exact identifying_blockHandler own _ past
    · intro ms past line _
      exact ⟨trivial, fun _ => trivial⟩
  · intro failures past
    split
    · exact keeps_log.2 ⟨trivial, fun _ _ => trivial⟩
    · trivial

theorem identifying_processBlock (ix : Indexer) : ix.Identifying (ix.processBlock height) := by
  apply identifying_bind (identifying_within (identifying_asking calls_fetch))
  intro data
  apply identifying_bind
  · exact identifying_within (identifying_asking (calls_liftExcept data.resolve))
  intro signatures
  apply identifying_bind
  · apply identifying_within
    intro past
    exact (keeps_save (fun _ _ op member => Fetched.writes_identify op member)
      fun _ _ => trivial).imp (fun _ _ _ => trivial) fun _ _ _ => trivial
  intro _
  apply identifying_bind (identifying_callModules data)
  intro _
  exact identifying_within (identifying_within (identifying_perform trivial))

theorem identifying_attempt (ix : Indexer) (job : Job) : ix.Identifying (job.attempt ix) := by
  apply job.abides_attempt
  · intro past c used
    cases c with
    | perform op => cases op <;> trivial
    | _ => trivial
  · exact fun _ _ => trivial
  · exact fun worker _ => { ix with worker }.identifying_processBlock

end Indexer

namespace Crew

variable {ix : Indexer}

/-- The store of a crew answers from tables that agree with the list, since all that was written
before does. -/
theorem answers_identifying {crew : Crew} {log : List Operation} (shown : crew.Log log)
    (kept : ∀ u ∈ crew.attempts, u.Keeps ix.identifying fun _ _ _ => True) (m : Move) :
    Answers ix.identifying crew m := by
  intro u present c permitted
  cases c with
  | perform op =>
      refine ⟨crew.store.tables, ?_, ?_⟩
      · rw [shown.tables]
        apply Tables.identified_after
        intro op' done
        obtain ⟨_, _, _, _, identifies⟩ := shown.agreed kept done
        exact identifies
      · intro value answered
        obtain ⟨_, _, said⟩ := m.answer_spec crew.store (.perform op)
        exact said op value (congrArg (Exchange.mk _) answered)
  | _ => trivial

/-- Identities are stable. Workers may be given anything to do, their calls may be interleaved in
any way, the node may answer anything at any time, and the store may refuse at any time: in every
state that is reached, each row of the validators, descriptions, statuses and voting powers has the
operator that comes first in the list for the row's consensus address. So an address that the list
does not name has no row. -/
theorem identities_stable (ix : Indexer) (jobs : List Job) (moves : List Move) :
    ((start ix jobs).play moves).store.tables.Identified ix.operators := by
  have kept : ∀ u ∈ ((start ix jobs).play moves).attempts,
      u.Keeps ix.identifying fun _ _ _ => True := by
    apply keeps_play
    · intro job _
      apply Program.Keeps.imp _ _ _ (ix.identifying_attempt job [])
      · exact fun _ _ permitted => permitted
      · exact fun _ _ _ answered => answered
      · exact fun _ _ _ => trivial
    · exact fun m _ crew log shown kept => answers_identifying shown kept m
  have shown := (log_start ix jobs).play moves
  rw [shown.tables]
  apply Tables.identified_after
  intro op done
  obtain ⟨_, _, _, _, identifies⟩ := shown.agreed kept done
  exact identifies

end Crew
end ChainIndexer
