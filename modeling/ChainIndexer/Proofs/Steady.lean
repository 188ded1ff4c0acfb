import ChainIndexer.Proofs.Crew
import ChainIndexer.Proofs.Store.Entry
import ChainIndexer.Proofs.Store.Slot
import ChainIndexer.Proofs.Writes

/-! Indexing in a world that stays as it is. What an attempt at a height writes is then settled by
the height, whatever other attempts do to the store in the meantime. Only averages of block times
are not, since they depend on the blocks stored when they are taken. -/
namespace ChainIndexer

/-- Operations that write rows, but for averages. -/
def Operation.records : Operation → Bool
  | hasBlock _ | lastBlockHeight | lastBlock | blockSince _ | validator _ | genesis | lastPruned
  | close | saveAverageBlockTime _ => false
  | _ => true

def History.recorded (past : History) : List Operation :=
  past.performed.filter Operation.records

theorem History.mem_recorded {past : History} {op : Operation} :
    op ∈ past.recorded ↔ op ∈ past.performed ∧ op.records = true := List.mem_filter

def ifAnswered {α : Type} (answer : Except Fault α) (writes : α → List Operation) :
    List Operation :=
  match answer with
  | .ok value => writes value
  | .error _ => []

@[simp] theorem mem_ifAnswered {α : Type} {answer : Except Fault α} {writes : α → List Operation}
    {op : Operation} :
    op ∈ ifAnswered answer writes ↔ ∃ value, answer = .ok value ∧ op ∈ writes value := by
  cases answer <;> simp [ifAnswered]

theorem ifAnswered_ok {α : Type} {answer : Except Fault α} {value : α}
    {writes : α → List Operation} (h : answer = .ok value) :
    ifAnswered answer writes = writes value := by
  rw [h]
  rfl

theorem ifAnswered_error {α : Type} {answer : Except Fault α} {f : Fault}
    {writes : α → List Operation} (h : answer = .error f) : ifAnswered answer writes = [] := by
  rw [h]
  rfl

namespace World

def fetch (w : World) (height : Height) : Except Fault Fetched := do
  let block ← w.node (.block height)
  let results ← w.node (.blockResults height)
  let txs ← w.node (.transactions block)
  let validators ← w.node (.validators height)
  return { block, results, txs, validators }

/-- What is fetched for a height, and the signatures in it, unless the height is rejected. -/
def accept (w : World) (height : Height) : Except Fault (Fetched × List CommitSignature) := do
  let data ← w.fetch height
  let signatures ← data.resolve
  return (data, signatures)

def genesisDoc (w : World) : Option String → Except Fault GenesisDoc
  | none => w.node .genesis
  | some path =>
    match w.files path with
    | .ok bytes => GenesisDoc.parse bytes
    | .error reason => .error (.because .resourceNotFound s!"cannot read {path}: {reason}")

end World

/-! The rows that the modules write. Which validators are known is up to the operators. -/

namespace Fetched

def stakingPool (data : Fetched) (w : World) : Except Fault StakingPool := do
  let pool ← w.node (.stakingPool data.block.height)
  return { bondedTokens := pool.bonded, notBondedTokens := pool.notBonded
           height := data.block.height }

def known (data : Fetched) (operators : List Operator) : List (ChainValidator × Validator) :=
  (data.validators.operated operators).map fun v => (v.validator, v.identity data.validators.height)

def votingPowers (data : Fetched) (operators : List Operator) : List ValidatorVotingPower :=
  (data.known operators).map (Staking.votingPower data.block.height)

def statuses (data : Fetched) (operators : List Operator) : List ValidatorStatus :=
  (data.known operators).map (Staking.status data.block.height)

def supply (data : Fetched) (w : World) : Except Fault Supply := do
  let coins ← w.node (.supply data.block.height)
  return { coins, height := data.block.height }

def balance (data : Fetched) (w : World) (address : String) : Except Fault AccountBalance := do
  let balances ← w.node (.balance address data.block.height)
  return { address, balances, height := data.block.height }

def balances (data : Fetched) (w : World) : Except Fault (List AccountBalance) :=
  (Bank.accounts data.txs).mapM (data.balance w)

def inflation (data : Fetched) (w : World) : Except Fault Inflation := do
  let value ← w.node (.inflation data.block.height)
  return { value, height := data.block.height }

def ibcParams (data : Fetched) (w : World) : Except Fault IbcParams := do
  let params ← w.node (.ibcParams data.block.height)
  return { sendEnabled := params.sendEnabled, receiveEnabled := params.receiveEnabled
           height := data.block.height }

end Fetched

namespace GenesisDoc

def genesis (doc : GenesisDoc) : Genesis where
  chainId := doc.chainId
  time := doc.time
  initialHeight := doc.initialHeight

def commissions (state : Json) (doc : GenesisDoc) : Except Fault (List ValidatorCommission) := do
  let validators ← Json.Decoder.decodeValue Staking.stateDecoder state
  return validators.map (·.commission doc.initialHeight)

end GenesisDoc

namespace Module

def writes (w : World) (operators : List Operator) (data : Fetched) : Module → List Operation
  | consensus => []
  | staking => ifAnswered (data.stakingPool w) fun pool =>
    [.saveStakingPool pool, .saveVotingPowers (data.votingPowers operators),
      .saveStatuses (data.statuses operators)]
  | bank => ifAnswered (data.supply w) fun supply =>
    .saveSupply supply :: ifAnswered (data.balances w) fun balances => [.saveBalances balances]
  | mint => ifAnswered (data.inflation w) fun inflation => [.saveInflation inflation]
  | ibc => ifAnswered (data.ibcParams w) fun params => [.saveIbcParams params]
  | pruning _ => []

def genesisWrites (doc : GenesisDoc) : Module → List Operation
  | consensus => [.saveGenesis doc.genesis]
  | staking =>
    match Json.lookup? "staking" doc.appState with
    | none => []
    | some state => ifAnswered (doc.commissions state) fun rows => [.saveCommissions rows]
  | bank | mint | ibc | pruning _ => []

end Module

/-- What an attempt at a height writes, if it is not cut short. -/
def Indexer.writes (ix : Indexer) (w : World) (height : Height) : List Operation :=
  if height = 0 then
    ifAnswered (w.genesisDoc ix.genesisFile) fun doc =>
      ix.registry.modules.flatMap (Module.genesisWrites doc)
  else
    ifAnswered (w.accept height) fun (data, signatures) =>
      data.writes ix.operators signatures ++
        ix.registry.modules.flatMap (Module.writes w ix.operators data) ++
        [.saveBlock (data.block.toRecord data.results.totalGas)]

/-- What attempts rely on of each other: no rows are removed, the store stays open, and the
operator of a stored validator is the one in the list. -/
def Operation.upholds (operators : List Operator) : Operation → Prop
  | prune _ | close => False
  | saveValidators rows => ∀ row ∈ rows,
    (findOperator operators row.consensusAddress).map (·.operatorAddress) = some row.operatorAddress
  | _ => True

/-- The node answers as it always does, and the store answers from tables that hold at least what
the attempt itself has written. -/
def Indexer.steady (ix : Indexer) (w : World) : Contract where
  calls _
    | .perform op => op.upholds ix.operators
    | _ => True
  answers past
    | .ask query, a => a = w.node query
    | .load path, a => a = w.files path
    | .log _, _ => True
    | .perform op, a => ∃ log, (∀ done ∈ past.performed, done ∈ log) ∧
      (∀ done ∈ log, done.upholds ix.operators) ∧ a = .ok (op.answer (({} : Tables).after log))

namespace Steady

open Attempt

variable {ix : Indexer} {w : World} {past : History}

theorem not_refuses : ¬ (ix.steady w).Refuses := by
  rintro ⟨past, op, f, log, _, _, answered⟩
  cases answered

theorem recorded_append (past more : History) :
    History.recorded (past ++ more) = past.recorded ++ History.recorded more := by
  rw [History.recorded, History.performed_append, List.filter_append]
  rfl

theorem recorded_of_performed {later : History} {ops : List Operation}
    (done : later.performed = past.performed ++ ops)
    (records : ∀ op ∈ ops, op.records = true) : later.recorded = past.recorded ++ ops := by
  rw [History.recorded, done, List.filter_append, List.filter_eq_self.2 records]
  rfl

theorem keeps_record (op : Operation) (upholds : op.upholds ix.operators)
    (records : op.records = true) :
    (perform op).Keeps (ix.steady w) (fun _ later => later.recorded = past.recorded ++ [op])
      (fun _ _ => False) past := by
  refine (keeps_write upholds).imp ?_ fun _ _ refused => not_refuses refused
  intro _ later done
  refine recorded_of_performed done ?_
  intro op' member
  rw [List.mem_singleton.1 member]
  exact records

theorem keeps_aside {α : Type} {allowed : Effect → Prop} {p : Attempt α} (calls : p.Calls allowed)
    (upholds : ∀ op, allowed (.perform op) → op.upholds ix.operators ∧ op.records = false) :
    p.Keeps (ix.steady w) (fun _ later => later.recorded = past.recorded)
      (fun _ later => later.recorded = past.recorded) past := by
  refine calls.keeps (fun later => later.recorded = past.recorded) ?_ ?_ rfl
  · intro past c made
    cases c with
    | perform op => exact (upholds op made).1
    | _ => trivial
  · intro later c a same made _
    rw [recorded_append, same]
    refine (congrArg (past.recorded ++ ·) ?_).trans (List.append_nil _)
    cases c with
    | perform op =>
        cases a with
        | error f => rfl
        | ok value => exact List.filter_cons_of_neg (by simp [(upholds op made).2])
    | _ => rfl

/-! Attempts that learn something and record nothing. -/

section Learning

variable {α β : Type}

def Learns (ix : Indexer) (w : World) (past : History) (p : Attempt α) (e : Except Fault α) :
    Prop :=
  p.Keeps (ix.steady w) (fun value later => later.recorded = past.recorded ∧ e = .ok value)
    (fun _ later => later.recorded = past.recorded ∧ ∃ f, e = .error f) past

theorem learns_pure (value : α) : Learns ix w past (pure value) (pure value) := ⟨rfl, rfl⟩

theorem learns_ask (query : Query) : Learns ix w past (ask query) (w.node query) := by
  refine (keeps_question trivial).imp ?_ ?_
  · rintro a _ ⟨answered, rfl⟩
    exact ⟨(recorded_append past _).trans (List.append_nil _), Eq.symm answered⟩
  · rintro f _ ⟨answered, rfl⟩
    exact ⟨(recorded_append past _).trans (List.append_nil _), f, Eq.symm answered⟩

theorem learns_within {doing : String} {p : Attempt α} {e : Except Fault α}
    (h : Learns ix w past p e) : Learns ix w past (within doing p) e := (keeps_within _ _).2 h

theorem learns_liftExcept (e : Except Fault α) : Learns ix w past (liftExcept e) e := by
  unfold Learns
  rw [keeps_liftExcept]
  cases e with
  | ok value => exact ⟨rfl, rfl⟩
  | error f => exact ⟨rfl, f, rfl⟩

theorem learns_bind {p : Attempt α} {e : Except Fault α} {f : α → Attempt β}
    {g : α → Except Fault β} (first : Learns ix w past p e)
    (rest : ∀ value past, Learns ix w past (f value) (g value)) :
    Learns ix w past (p >>= f) (e >>= g) := by
  refine (keeps_bind _ _).2 (Keeps.imp first ?_ ?_)
  · rintro value between ⟨same, rfl⟩
    refine (rest value between).imp ?_ ?_
    · rintro _ later ⟨same', learnt⟩
      exact ⟨same'.trans same, learnt⟩
    · rintro _ later ⟨same', failed⟩
      exact ⟨same'.trans same, failed⟩
  · rintro _ later ⟨same, f, rfl⟩
    exact ⟨same, f, rfl⟩

theorem learns_mapM {f : α → Attempt β} {g : α → Except Fault β}
    (each : ∀ item past, Learns ix w past (f item) (g item)) (items : List α) :
    Learns ix w past (items.mapM f) (items.mapM g) := by
  induction items generalizing past with
  | nil => exact learns_pure _
  | cons item rest ih =>
      rw [List.mapM_cons, List.mapM_cons]
      exact learns_bind (each item past) fun _ _ => learns_bind ih fun _ _ => learns_pure _

theorem learns_logs (lines : List LogLine) :
    Learns ix w past (lines.forM log) (pure ()) := by
  induction lines generalizing past with
  | nil => exact learns_pure ()
  | cons line lines ih =>
      have logged : Learns ix w past (log line) (pure ()) :=
        ⟨trivial, fun _ _ => ⟨(recorded_append past _).trans (List.append_nil _), rfl⟩⟩
      exact learns_bind (g := fun _ => pure ()) logged fun _ _ => ih

theorem keeps_learnt {p : Attempt α} {e : Except Fault α} {f : α → Attempt β}
    {good : β → History → Prop} {bad : Fault → History → Prop} (first : Learns ix w past p e)
    (rest : ∀ value (later : History), past <+: later → later.recorded = past.recorded →
      e = .ok value → (f value).Keeps (ix.steady w) good bad later)
    (failed : ∀ f f' (later : History), later.recorded = past.recorded → e = .error f →
      bad f' later) :
    (p >>= f).Keeps (ix.steady w) good bad past := by
  refine (keeps_bind _ _).2 ((Keeps.extends first).imp ?_ ?_)
  · rintro value later ⟨begun, same, learnt⟩
    exact rest value later begun same learnt
  · rintro f' later ⟨_, same, f, none⟩
    exact failed f f' later same none

end Learning

/-! The validators of a set that was saved before are found in the store, as far as they have a
known operator, and with this operator. -/

theorem operator_of_stored {operators : List Operator} {log : List Operation}
    {set : ValidatorSet} (upheld : ∀ op ∈ log, op.upholds operators)
    (saved : .saveValidators (correlate operators set).validators ∈ log) {v : ChainValidator}
    (listed : v ∈ set.validators) :
    ((({} : Tables).after log).validators.get? (.ofRaw v.address)).map (·.operatorAddress) =
      (findOperator operators (.ofRaw v.address)).map (·.operatorAddress) := by
  have law := Slot.row?_after_empty (.validator (.ofRaw v.address)) log
  change (({} : Tables).after log).validators.get? _ = newest Validator.height _ at law
  cases stored : (({} : Tables).after log).validators.get? (.ofRaw v.address) with
  | some row =>
      rw [stored] at law
      obtain ⟨op, done, carried⟩ := List.mem_flatMap.1 (newest_eq_some_iff.1 law.symm).mem
      cases op with
      | saveValidators rows =>
          obtain ⟨member, address⟩ := List.mem_filter.1 carried
          have known := upheld _ done row member
          rw [of_decide_eq_true address] at known
          exact known.symm
      | _ => cases carried
  | none =>
      cases known : findOperator operators (.ofRaw v.address) with
      | none => rfl
      | some operator =>
          rw [stored] at law
          have nothing := List.flatMap_eq_nil_iff.1 (newest_eq_none_iff.1 law.symm) _ saved
          have row : (OperatedValidator.mk v operator).identity set.height ∈
              (correlate operators set).validators := by
            refine List.mem_map_of_mem (List.mem_filterMap.2 ⟨v, listed, ?_⟩)
            rw [known]
            rfl
          have carried := List.filter_eq_nil_iff.1 nothing _ row
          simp [OperatedValidator.identity] at carried

def operated (known : ChainValidator × Validator) : ChainValidator × String :=
  (known.1, known.2.operatorAddress)

theorem map_votingPower_congr {height : Height} {one other : List (ChainValidator × Validator)}
    (same : one.map operated = other.map operated) :
    one.map (Staking.votingPower height) = other.map (Staking.votingPower height) := by
  let row (known : ChainValidator × String) : ValidatorVotingPower :=
    ⟨.ofRaw known.1.address, known.2, known.1.votingPower, height⟩
  have rows : Staking.votingPower height = row ∘ operated := rfl
  rw [rows, ← List.map_map, same, List.map_map]

theorem map_status_congr {height : Height} {one other : List (ChainValidator × Validator)}
    (same : one.map operated = other.map operated) :
    one.map (Staking.status height) = other.map (Staking.status height) := by
  let row (known : ChainValidator × String) : ValidatorStatus :=
    ⟨.ofRaw known.1.address, known.2, true, none, none, height⟩
  have rows : Staking.status height = row ∘ operated := rfl
  rw [rows, ← List.map_map, same, List.map_map]

theorem keeps_identify {set : ValidatorSet} {v : ChainValidator} (listed : v ∈ set.validators)
    (saved : .saveValidators (correlate ix.operators set).validators ∈ past.performed) :
    (Staking.identify v).Keeps (ix.steady w)
      (fun known later => later.recorded = past.recorded ∧
        .saveValidators (correlate ix.operators set).validators ∈ later.performed ∧
        known.map operated =
          (findOperator ix.operators (.ofRaw v.address)).map (v, ·.operatorAddress))
      (fun _ _ => False) past := by
  unfold Staking.identify
  rw [keeps_bind, keeps_perform]
  refine ⟨trivial, ?_⟩
  rintro answer ⟨log, known, upheld, rfl⟩
  refine ⟨(recorded_append past _).trans (List.append_nil _), ?_, ?_⟩
  · rw [History.performed_append]
    exact List.mem_append_left _ saved
  · have found := operator_of_stored upheld (known _ saved) listed
    have pairs := congrArg (Option.map (v, ·)) found
    rw [Option.map_map, Option.map_map] at pairs
    rw [Option.map_map]
    exact pairs

theorem keeps_identifyAll {set : ValidatorSet} {vs : List ChainValidator}
    (listed : ∀ v ∈ vs, v ∈ set.validators)
    (saved : .saveValidators (correlate ix.operators set).validators ∈ past.performed) :
    (Staking.identifyAll vs).Keeps (ix.steady w)
      (fun known later => later.recorded = past.recorded ∧
        known.map operated = vs.filterMap fun v =>
          (findOperator ix.operators (.ofRaw v.address)).map (v, ·.operatorAddress))
      (fun _ _ => False) past := by
  induction vs generalizing past with
  | nil => exact ⟨rfl, rfl⟩
  | cons v vs ih =>
      have others {past : History} := @ih past fun v' member =>
        listed v' (List.mem_cons_of_mem _ member)
      unfold Staking.identifyAll
      rw [keeps_bind]
      refine (keeps_identify (listed v List.mem_cons_self) saved).imp ?_ fun _ _ never => never
      rintro known between ⟨same, saved, found⟩
      cases known with
      | none =>
          refine (others saved).imp ?_ fun _ _ never => never
          rintro known later ⟨same', rows⟩
          refine ⟨same'.trans same, ?_⟩
          rw [rows, List.filterMap_cons, ← found]
          rfl
      | some known =>
          change Keeps _ _ _ (_ >>= fun _ => _) _
          rw [keeps_bind]
          refine (others saved).imp ?_ fun _ _ never => never
          rintro known later ⟨same', rows⟩
          refine ⟨same'.trans same, ?_⟩
          rw [List.map_cons, rows, List.filterMap_cons, ← found]
          rfl

theorem map_known (operators : List Operator) (data : Fetched) :
    (data.known operators).map operated = data.validators.validators.filterMap fun v =>
      (findOperator operators (.ofRaw v.address)).map (v, ·.operatorAddress) := by
  rw [Fetched.known, List.map_map, ValidatorSet.operated, List.map_filterMap]
  simp only [Option.map_map]
  rfl

/-! The modules, one by one: each records what it is said to write, also where it fails. -/

section Modules

variable {data : Fetched}

/-- What a handler records, also where it fails. -/
def Handles (ix : Indexer) (w : World) (past : History) (ops : List Operation)
    (p : Attempt Unit) : Prop :=
  p.Keeps (ix.steady w) (fun _ later => later.recorded = past.recorded ++ ops)
    (fun _ later => later.recorded = past.recorded ++ ops) past

theorem handles_only {ops : List Operation} {p : Attempt Unit}
    (h : p.Keeps (ix.steady w) (fun _ later => later.recorded = past.recorded ++ ops)
      (fun _ _ => False) past) : Handles ix w past ops p :=
  h.imp (fun _ _ written => written) fun _ _ never => never.elim

theorem handles_write {op : Operation} {ops : List Operation} {p : Attempt PUnit}
    {rest : Attempt Unit}
    (first : p.Keeps (ix.steady w) (fun _ later => later.recorded = past.recorded ++ [op])
      (fun _ _ => False) past)
    (goesOn : ∀ between : History, past <+: between → Handles ix w between ops rest) :
    Handles ix w past (op :: ops) (do p; rest) := by
  refine (keeps_bind _ _).2 (first.extends.imp ?_ fun _ _ never => never.2.elim)
  rintro _ between ⟨begun, written⟩
  have split : past.recorded ++ op :: ops = between.recorded ++ ops := by simp [written]
  rw [split]
  exact goesOn between begun

/-- A handler that asks a question and makes a row of the answer. -/
theorem handles_row {query : Query} {ρ : Type} {row : query.Answer → ρ} {doing : String}
    {e : Except Fault ρ} (made : e = (do return row (← w.node query)))
    {ops : ρ → List Operation} {rest : query.Answer → Attempt Unit}
    (goesOn : ∀ value (between : History), past <+: between →
      Handles ix w between (ops (row value)) (rest value)) :
    Handles ix w past (ifAnswered e ops) (within doing (ask query) >>= rest) := by
  refine keeps_learnt (learns_within (learns_ask _)) ?_ ?_
  · intro value asked begun same answered
    have row_eq : e = .ok (row value) := by
      rw [made, answered]
      rfl
    rw [ifAnswered_ok row_eq, ← same]
    exact goesOn value asked begun
  · intro f _ later same unanswered
    have none : e = .error f := by
      rw [made, unanswered]
      rfl
    rw [same, ifAnswered_error none, List.append_nil]

theorem handles_staking (saved : .saveValidators (correlate ix.operators data.validators).validators
      ∈ past.performed) :
    Handles ix w past (Module.staking.writes w ix.operators data)
      (Staking.handleBlock ⟨data.block, data.validators, data.txs⟩) := by
  refine handles_row rfl fun pool asked begun => ?_
  refine handles_write (keeps_record (.saveStakingPool _) trivial rfl) fun between begun' => ?_
  have saved' : .saveValidators (correlate ix.operators data.validators).validators ∈
      between.performed := by
    obtain ⟨a, done⟩ := History.mem_performed.1 saved
    exact History.mem_performed.2 ⟨a, (begun.trans begun').subset done⟩
  refine (keeps_bind _ _).2 ?_
  refine (keeps_identifyAll (fun _ member => member) saved').imp ?_ fun _ _ never => never.elim
  rintro known found ⟨same, rows⟩
  rw [← map_known] at rows
  rw [← same, map_votingPower_congr rows, map_status_congr rows]
  refine handles_write (keeps_record (.saveVotingPowers _) trivial rfl) fun _ _ => ?_
  exact handles_only (keeps_record (.saveStatuses _) trivial rfl)

theorem learns_balance (address : String) (past : History) :
    Learns ix w past (Bank.balance data.block.height address) (data.balance w address) :=
  learns_bind (learns_ask _) fun _ _ => learns_pure _

theorem handles_bank :
    Handles ix w past (Module.bank.writes w ix.operators data)
      (Bank.handleBlock ⟨data.block, data.validators, data.txs⟩) := by
  refine handles_row rfl fun coins asked _ => ?_
  refine handles_write (keeps_record (.saveSupply _) trivial rfl) fun between _ => ?_
  refine keeps_learnt (learns_mapM learns_balance _) ?_ ?_
  · intro balances asked _ same answered
    refine (keeps_record (.saveBalances _) trivial rfl).imp ?_ fun _ _ never => never.elim
    intro _ later written
    rw [written, same, Fetched.balances, ifAnswered_ok answered]
  · intro f _ later same unanswered
    rw [same, Fetched.balances, ifAnswered_error unanswered, List.append_nil]

theorem handles_blockHandler {m : Module} (retains : ∀ config, m ≠ .pruning config)
    {handler : BlockData → Attempt Unit} (own : m.blockHandler? = some handler)
    (saved : .saveValidators (correlate ix.operators data.validators).validators ∈
      past.performed) :
    Handles ix w past (m.writes w ix.operators data)
      (handler ⟨data.block, data.validators, data.txs⟩) := by
  cases m with
  | consensus =>
      unfold Handles
      rw [Module.writes, List.append_nil]
      refine keeps_aside (Module.calls_blockHandler own _) ?_
      intro op used
      cases op <;> first | exact ⟨trivial, rfl⟩ | cases used
  | staking =>
      cases own
      exact handles_staking saved
  | bank =>
      cases own
      exact handles_bank
  | mint =>
      cases own
      refine handles_row rfl fun value asked _ => ?_
      exact handles_only (keeps_record (.saveInflation _) trivial rfl)
  | ibc =>
      cases own
      refine handles_row rfl fun params asked _ => ?_
      exact handles_only (keeps_record (.saveIbcParams _) trivial rfl)
  | pruning config => exact absurd rfl (retains config)

theorem handles_genesisHandler {m : Module} {handler : GenesisDoc → Attempt Unit}
    (own : m.genesisHandler? = some handler) (doc : GenesisDoc) :
    Handles ix w past (m.genesisWrites doc) (handler doc) := by
  cases m with
  | consensus =>
      cases own
      exact handles_only (keeps_record (.saveGenesis _) trivial rfl)
  | staking =>
      cases own
      unfold Staking.handleGenesis Module.genesisWrites
      cases Json.lookup? "staking" doc.appState with
      | none => exact (List.append_nil _).symm
      | some state =>
          change Handles ix w past (ifAnswered (doc.commissions state) fun rows =>
            [.saveCommissions rows]) (within _ (liftExcept _) >>= fun _ => _)
          refine keeps_learnt (learns_within (learns_liftExcept _)) ?_ ?_
          · intro validators read _ same decoded
            have rows : doc.commissions state =
                .ok (validators.map (·.commission doc.initialHeight)) := by
              rw [GenesisDoc.commissions, decoded]
              rfl
            rw [ifAnswered_ok rows, ← same]
            exact handles_only (keeps_record (.saveCommissions _) trivial rfl)
          · intro f _ later same undecoded
            have none : doc.commissions state = .error f := by
              rw [GenesisDoc.commissions, undecoded]
              rfl
            rw [ifAnswered_error none, same, List.append_nil]
  | bank => cases own
  | mint => cases own
  | ibc => cases own
  | pruning config => cases own

/-- Calling modules in order records what they write, one after the other. -/
theorem keeps_dispatch {handler? : Module → Option (Attempt Unit)}
    {report : Module → Fault → LogLine} (writes : Module → List Operation)
    (ready : History → Prop) (lasts : ∀ {past later}, past <+: later → ready past → ready later)
    {modules : List Module}
    (each : ∀ m ∈ modules, ∀ past, ready past → match handler? m with
      | some handler => Handles ix w past (writes m) handler
      | none => writes m = [])
    (start : ready past) :
    (Registry.dispatch handler? report modules).Keeps (ix.steady w)
      (fun _ later => later.recorded = past.recorded ++ modules.flatMap writes)
      (fun _ _ => False) past := by
  -- what is recorded, with what the modules to come write, stays the same
  let holds (ms : List Module) (later : History) : Prop :=
    ready later ∧ later.recorded ++ ms.flatMap writes = past.recorded ++ modules.flatMap writes
  have goesOn {m : Module} {ms : List Module} {between later : History}
      (h : holds (m :: ms) between) (begun : between <+: later)
      (written : later.recorded = between.recorded ++ writes m) : holds ms later := by
    refine ⟨lasts begun h.1, ?_⟩
    rw [written, ← h.2, List.flatMap_cons, List.append_assoc]
  apply (Registry.keeps_dispatch holds ?_ ?_ ⟨start, rfl⟩).imp
  · intro _ later h
    exact (List.append_nil _).symm.trans h.2
  · intro _ _ never
    exact never
  · intro m member ms between h
    have first := each m member between h.1
    cases found : handler? m with
    | none =>
        rw [found] at first
        apply goesOn h List.prefix_rfl
        rw [first, List.append_nil]
    | some handler =>
        rw [found] at first
        exact first.extends.imp (fun _ _ made => goesOn h made.1 made.2)
          fun _ _ made => goesOn h made.1 made.2
  · intro ms between line h
    refine ⟨trivial, fun a => ⟨lasts (List.prefix_append _ _) h.1, ?_⟩⟩
    rw [recorded_append]
    exact (congrArg (· ++ _) (List.append_nil _)).trans h.2

end Modules

/-! Whole attempts. -/

section Attempts

variable {height : Height}

theorem learns_fetchTransactions (b : Block) :
    Learns ix w past (Indexer.fetchTransactions b) (w.node (.transactions b)) := by
  have learnt : Learns ix w past (Indexer.fetchTransactions b)
      (w.node (.transactions b) >>= fun txs => pure () >>= fun _ => pure txs) :=
    learns_bind (learns_within (learns_ask _)) fun _ _ =>
      learns_bind (learns_logs _) fun _ _ => learns_pure _
  cases answered : w.node (.transactions b) with
  | ok txs =>
      rw [answered] at learnt
      exact learnt
  | error f =>
      rw [answered] at learnt
      exact learnt

theorem learns_fetch : Learns ix w past (Indexer.fetch height) (w.fetch height) := by
  refine learns_bind (learns_within (learns_ask _)) fun block _ => ?_
  refine learns_bind (learns_within (learns_ask _)) fun results _ => ?_
  refine learns_bind (learns_fetchTransactions block) fun txs _ => ?_
  refine learns_bind (learns_within (learns_ask _)) fun validators _ => ?_
  exact learns_pure _

theorem learns_readGenesis (ix : Indexer) :
    Learns ix w past ix.readGenesis (w.genesisDoc ix.genesisFile) := by
  unfold Indexer.readGenesis World.genesisDoc
  cases ix.genesisFile with
  | none => exact learns_ask .genesis
  | some path =>
      have read : Learns ix w past (load path) (pure (w.files path)) := by
        refine keeps_load.2 ⟨trivial, ?_⟩
        rintro contents rfl
        exact ⟨(recorded_append past _).trans (List.append_nil _), rfl⟩
      refine learns_bind (g := fun contents => match contents with
        | .ok bytes => GenesisDoc.parse bytes
        | .error reason => .error (.because .resourceNotFound s!"cannot read {path}: {reason}"))
        read fun contents past => ?_
      cases contents with
      | ok bytes => exact learns_liftExcept (GenesisDoc.parse bytes)
      | error reason => exact learns_liftExcept (.error _)

theorem keeps_report {failures : Nat} {line : LogLine} {ops : List Operation}
    (written : past.recorded = ops) :
    (if failures ≠ 0 then log line else pure () : Attempt Unit).Keeps (ix.steady w)
      (fun _ later => later.recorded = ops) (fun _ _ => False) past := by
  split
  · refine keeps_log.2 ⟨trivial, fun _ _ => ?_⟩
    rw [recorded_append, written]
    exact List.append_nil _
  · exact written

theorem handles_processGenesis (ix : Indexer) (w : World) (past : History) :
    Handles ix w past (ix.writes w 0) ix.processGenesis := by
  refine keeps_learnt (learns_within (learns_readGenesis ix)) ?_ ?_
  · intro doc read _ same answered
    have writes : ix.writes w 0 = _ := ifAnswered_ok answered
    rw [keeps_bind]
    refine (keeps_dispatch (Module.genesisWrites doc) (fun _ => True) (fun _ _ => trivial) ?_
      trivial).imp ?_ fun _ _ never => never.elim
    · intro m _ past _
      cases own : m.genesisHandler? with
      | none => cases m <;> first | rfl | cases own
      | some handler => exact handles_genesisHandler own doc
    · intro failures later written
      refine (keeps_report ?_).imp (fun _ _ written => written) fun _ _ never => never.elim
      rw [written, same, writes]
  · intro f _ later same unanswered
    have nothing : ix.writes w 0 = _ := ifAnswered_error unanswered
    rw [same, nothing, List.append_nil]

theorem writes_record {data : Fetched} {operators : List Operator}
    {signatures : List CommitSignature} :
    ∀ op ∈ data.writes operators signatures,
      op.records = true ∧ op.upholds operators := by
  intro op member
  simp only [Fetched.writes, Transaction.writes, List.mem_append, List.mem_cons,
    List.mem_flatMap] at member
  rcases member with (rfl | rfl | rfl | none) | ⟨tx, _, rfl | rfl | none⟩
  · refine ⟨rfl, ?_⟩
    intro row listed
    obtain ⟨v, operated, rfl⟩ := List.mem_map.1 listed
    obtain ⟨_, _, paired⟩ := List.mem_filterMap.1 operated
    obtain ⟨operator, found, rfl⟩ := Option.map_eq_some_iff.1 paired
    exact congrArg (Option.map Operator.operatorAddress) found
  · exact ⟨rfl, trivial⟩
  · exact ⟨rfl, trivial⟩
  · cases none
  · exact ⟨rfl, trivial⟩
  · exact ⟨rfl, trivial⟩
  · cases none

theorem handles_processBlock (ix : Indexer) (w : World) (retains : ix.registry.Retains)
    (positive : height ≠ 0) (past : History) :
    Handles ix w past (ix.writes w height) (ix.processBlock height) := by
  have writes : ix.writes w height = _ := if_neg positive
  unfold Indexer.processBlock Indexer.atStage
  refine keeps_learnt (learns_within learns_fetch) ?_ ?_
  · intro data fetched _ same answered
    refine keeps_learnt (learns_within (learns_liftExcept _)) ?_ ?_
    · intro signatures resolved _ same' answered'
      have accepted : w.accept height = .ok (data, signatures) := by
        rw [World.accept, answered]
        change (data.resolve >>= fun signatures => _) = _
        rw [answered']
        rfl
      rw [keeps_bind, keeps_within]
      refine (Indexer.keeps_save (fun _ _ op member => (writes_record op member).2)
        fun _ _ => trivial).imp ?_ fun _ _ refused => (not_refuses refused).elim
      intro _ saved done
      have written := recorded_of_performed done fun op member => (writes_record op member).1
      rw [keeps_bind]
      unfold Indexer.callModules
      rw [keeps_bind]
      refine (keeps_dispatch (Module.writes w ix.operators data)
        (fun past =>
          .saveValidators (correlate ix.operators data.validators).validators ∈ past.performed)
        ?_ ?_ ?_).imp ?_ fun _ _ never => never.elim
      · intro past later begun ready
        obtain ⟨a, passed⟩ := History.mem_performed.1 ready
        exact History.mem_performed.2 ⟨a, begun.subset passed⟩
      · intro m member past ready
        cases own : m.blockHandler? with
        | none => cases m <;> cases own
        | some handler =>
            refine handles_blockHandler ?_ own ready
            rintro config rfl
            exact retains config member
      · rw [done]
        exact List.mem_append_right _ (.head _)
      · intro failures called written'
        refine (keeps_report rfl).imp ?_ fun _ _ never => never.elim
        intro _ reported same''
        rw [keeps_within, keeps_within]
        refine (keeps_record (.saveBlock _) trivial rfl).imp ?_ fun _ _ never => never.elim
        intro _ later last
        rw [last, same'', written', written, same', same, writes]
        refine Eq.trans ?_ (congrArg (past.recorded ++ ·) (ifAnswered_ok accepted).symm)
        simp
    · intro f _ later same' unanswered
      have rejected : w.accept height = .error f := by
        rw [World.accept, answered]
        change (data.resolve >>= fun signatures => _) = _
        rw [unanswered]
        rfl
      rw [same', same, writes]
      exact ((congrArg (past.recorded ++ ·) (ifAnswered_error rejected)).trans
        (List.append_nil _)).symm
  · intro f _ later same unanswered
    have rejected : w.accept height = .error f := by
      rw [World.accept, unanswered]
      rfl
    rw [same, writes]
    exact ((congrArg (past.recorded ++ ·) (ifAnswered_error rejected)).trans
      (List.append_nil _)).symm

theorem handles_process (ix : Indexer) (w : World) (retains : ix.registry.Retains)
    (height : Height) (past : History) :
    Handles ix w past (ix.writes w height) (ix.process height) := by
  unfold Indexer.process
  split
  · rename_i zero
    rw [zero]
    exact handles_processGenesis ix w past
  · rename_i positive
    exact handles_processBlock ix w retains positive past

/-- How an attempt that may be spared ends: everything is written, or the block was stored. -/
def Settled (ix : Indexer) (w : World) (height : Height) (past : History) : Prop :=
  past.recorded = ix.writes w height ∨
    past.recorded = [] ∧ (⟨.perform (.hasBlock height), .ok true⟩ : Exchange) ∈ past

theorem keeps_processIfMissing (ix : Indexer) (w : World) (retains : ix.registry.Retains)
    (height : Height) :
    (ix.processIfMissing height).Keeps (ix.steady w) (fun _ later => Settled ix w height later)
      (fun _ later => Settled ix w height later) [] := by
  unfold Indexer.processIfMissing
  split
  · exact Keeps.imp (handles_process ix w retains height []) (fun _ _ written => .inl written)
      fun _ _ written => .inl written
  · rw [keeps_bind, keeps_within, keeps_perform]
    refine ⟨trivial, ?_⟩
    rintro _ ⟨log, _, _, rfl⟩
    change Keeps _ _ _ (if _ then _ else _) _
    split
    · rename_i stored
      refine .inr ⟨rfl, ?_⟩
      rw [← stored]
      exact List.mem_cons_self
    · exact Keeps.imp (handles_process ix w retains height _) (fun _ _ written => .inl written)
        fun _ _ written => .inl written

end Attempts

end Steady
end ChainIndexer
