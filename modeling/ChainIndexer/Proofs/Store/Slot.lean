import ChainIndexer.Proofs.Newest
import ChainIndexer.Proofs.Store.Run

/-! Slots: the places of the store for one row that is kept up to date. A slot depends on nothing
but the rows saved for it, and holds the last one of greatest height among them. -/
namespace ChainIndexer

/-- A place for one row that is kept up to date. -/
inductive Slot where
  | validator (address : ConsensusAddress)
  | description (operator : String)
  | commission (operator : String)
  | status (operator : String)
  | votingPower (operator : String)
  | balance (account : String)
  | averageBlockTime (period : BlockTimePeriod)
  | stakingPool
  | supply
  | inflation
  | ibcParams
  /-- The height at which pruning ran, which is all that is stored of it. -/
  | lastPruned
  deriving DecidableEq

namespace Slot

@[reducible] def Row : Slot → Type
  | validator _ => Validator
  | description _ => ValidatorDescription
  | commission _ => ValidatorCommission
  | status _ => ValidatorStatus
  | votingPower _ => ValidatorVotingPower
  | balance _ => AccountBalance
  | averageBlockTime _ => AverageBlockTime
  | stakingPool => StakingPool
  | supply => Supply
  | inflation => Inflation
  | ibcParams => IbcParams
  | lastPruned => Height

def height : (s : Slot) → s.Row → Height
  | validator _ => Validator.height
  | description _ => ValidatorDescription.height
  | commission _ => ValidatorCommission.height
  | status _ => ValidatorStatus.height
  | votingPower _ => ValidatorVotingPower.height
  | balance _ => AccountBalance.height
  | averageBlockTime _ => AverageBlockTime.height
  | stakingPool => StakingPool.height
  | supply => Supply.height
  | inflation => Inflation.height
  | ibcParams => IbcParams.height
  | lastPruned => id

def row? : (s : Slot) → Tables → Option s.Row
  | validator address, t => t.validators.get? address
  | description operator, t => t.descriptions.get? operator
  | commission operator, t => t.commissions.get? operator
  | status operator, t => t.statuses.get? operator
  | votingPower operator, t => t.votingPowers.get? operator
  | balance account, t => t.balances.get? account
  | averageBlockTime period, t => t.averageBlockTimes.get? period
  | stakingPool, t => t.stakingPool
  | supply, t => t.supply
  | inflation, t => t.inflation
  | ibcParams, t => t.ibcParams
  | lastPruned, t => t.lastPruned

def carried (s : Slot) (op : Operation) : List s.Row :=
  match s with
  | validator address =>
    match op with
    | .saveValidators rows => rows.filter (·.consensusAddress = address)
    | _ => []
  | description operator =>
    match op with
    | .saveDescriptions rows => rows.filter (·.operatorAddress = operator)
    | _ => []
  | commission operator =>
    match op with
    | .saveCommissions rows => rows.filter (·.operatorAddress = operator)
    | _ => []
  | status operator =>
    match op with
    | .saveStatuses rows => rows.filter (·.operatorAddress = operator)
    | _ => []
  | votingPower operator =>
    match op with
    | .saveVotingPowers rows => rows.filter (·.operatorAddress = operator)
    | _ => []
  | balance account =>
    match op with
    | .saveBalances rows => rows.filter (·.address = account)
    | _ => []
  | averageBlockTime period =>
    match op with
    | .saveAverageBlockTime row => [row].filter (·.period = period)
    | _ => []
  | stakingPool =>
    match op with
    | .saveStakingPool row => [row]
    | _ => []
  | supply =>
    match op with
    | .saveSupply row => [row]
    | _ => []
  | inflation =>
    match op with
    | .saveInflation row => [row]
    | _ => []
  | ibcParams =>
    match op with
    | .saveIbcParams row => [row]
    | _ => []
  | lastPruned =>
    match op with
    | .storeLastPruned height => [height]
    | _ => []

@[simp] theorem carried_prune (s : Slot) (height : Height) : s.carried (.prune height) = [] := by
  cases s <;> rfl

/-- An operation offers a slot the rows that it carries for it, and does nothing else to it. -/
theorem row?_effect (s : Slot) (op : Operation) (t : Tables) :
    s.row? (op.effect t) = (s.carried op).foldl (offer (upToDate s.height)) (s.row? t) := by
  cases s with
  | validator address =>
      cases op with
      | saveValidators rows => exact Table.get?_putAll _ rows t.validators address
      | _ => rfl
  | description operator =>
      cases op with
      | saveDescriptions rows => exact Table.get?_putAll _ rows t.descriptions operator
      | _ => rfl
  | commission operator =>
      cases op with
      | saveCommissions rows => exact Table.get?_putAll _ rows t.commissions operator
      | _ => rfl
  | status operator =>
      cases op with
      | saveStatuses rows => exact Table.get?_putAll _ rows t.statuses operator
      | _ => rfl
  | votingPower operator =>
      cases op with
      | saveVotingPowers rows => exact Table.get?_putAll _ rows t.votingPowers operator
      | _ => rfl
  | balance account =>
      cases op with
      | saveBalances rows => exact Table.get?_putAll _ rows t.balances account
      | _ => rfl
  | averageBlockTime period =>
      cases op with
      | saveAverageBlockTime row => exact Table.get?_putAll _ [row] t.averageBlockTimes period
      | _ => rfl
  | stakingPool =>
      cases op with
      | saveStakingPool row => exact latest_eq_offer row t.stakingPool
      | _ => rfl
  | supply =>
      cases op with
      | saveSupply row => exact latest_eq_offer row t.supply
      | _ => rfl
  | inflation =>
      cases op with
      | saveInflation row => exact latest_eq_offer row t.inflation
      | _ => rfl
  | ibcParams =>
      cases op with
      | saveIbcParams row => exact latest_eq_offer row t.ibcParams
      | _ => rfl
  | lastPruned =>
      cases op with
      | storeLastPruned height => exact latest_eq_offer height t.lastPruned
      | _ => rfl

theorem row?_empty (s : Slot) : s.row? {} = none := by
  cases s <;> rfl

/-- After operations a slot holds the newest of the row stored before and all rows carried. -/
theorem row?_after (s : Slot) (t : Tables) (ops : List Operation) :
    s.row? (t.after ops) = newest s.height ((s.row? t).toList ++ ops.flatMap s.carried) := by
  induction ops generalizing t with
  | nil =>
      rw [List.flatMap_nil, ← foldl_offer_upToDate]
      rfl
  | cons op ops ih =>
      rw [Tables.after_cons, ih, row?_effect, foldl_offer_upToDate, ← newest_append,
        List.flatMap_cons, List.append_assoc]

theorem row?_after_empty (s : Slot) (ops : List Operation) :
    s.row? (({} : Tables).after ops) = newest s.height (ops.flatMap s.carried) := by
  rw [row?_after, row?_empty]
  rfl

theorem exists_of_mem (s : Slot) {log : List Operation} {op : Operation} (done : op ∈ log)
    {row : s.Row} (carried : row ∈ s.carried op) :
    ∃ stored, s.row? (({} : Tables).after log) = some stored ∧
      s.height row ≤ s.height stored := by
  have member : row ∈ log.flatMap s.carried := List.mem_flatMap.2 ⟨op, done, carried⟩
  rw [s.row?_after_empty]
  cases kept : newest s.height (log.flatMap s.carried) with
  | none =>
      rw [newest_eq_none_iff.1 kept] at member
      cases member
  | some stored => exact ⟨stored, rfl, (newest_eq_some_iff.1 kept).le row member⟩

theorem exists_of_row?_eq_some (s : Slot) {log : List Operation} {row : s.Row}
    (stored : s.row? (({} : Tables).after log) = some row) : ∃ op ∈ log, row ∈ s.carried op := by
  rw [s.row?_after_empty] at stored
  exact List.mem_flatMap.1 (newest_eq_some_iff.1 stored).mem

theorem height_le_after (s : Slot) (t : Tables) (ops : List Operation) {row : s.Row}
    (stored : s.row? t = some row) :
    ∃ row', s.row? (t.after ops) = some row' ∧ s.height row ≤ s.height row' := by
  have law := s.row?_after t ops
  rw [stored] at law
  cases kept : s.row? (t.after ops) with
  | none =>
      rw [kept] at law
      exact absurd (newest_eq_none_iff.1 law.symm) (by simp)
  | some row' =>
      rw [kept] at law
      exact ⟨row', rfl, (newest_eq_some_iff.1 law.symm).le row (by simp)⟩

/-- The rows saved for a slot in a run that begins with a new store, in order. -/
def saved (s : Slot) (ops : List Operation) : List s.Row :=
  (Store.new.accepted ops).flatMap s.carried

theorem row?_run (s : Slot) (ops : List Operation) :
    s.row? (Store.new.run ops).tables = newest s.height (s.saved ops) := by
  rw [Store.tables_run]
  exact s.row?_after_empty _

theorem row?_run_append (s : Slot) (ops more : List Operation) :
    s.row? (Store.new.run (ops ++ more)).tables =
      s.row? ((Store.new.run ops).tables.after ((Store.new.run ops).accepted more)) := by
  rw [Store.run_append, Store.tables_run (Store.new.run ops)]

theorem row?_after_of_carried_eq_nil {s : Slot} {ops : List Operation}
    (h : ∀ op ∈ ops, s.carried op = []) (t : Tables) : s.row? (t.after ops) = s.row? t := by
  rw [row?_after, List.flatMap_eq_nil_iff.2 h, List.append_nil]
  cases s.row? t <;> rfl

/-- The latest row wins. In every run of operations from a new store on, a slot holds a row once
one was saved for it, namely the last of greatest height; of the heights at which pruning ran, the
greatest one. So no height stored in a slot ever falls, and what carries no row for a slot leaves it
alone, pruning included. -/
theorem latest_wins (ops : List Operation) :
    (∀ s : Slot,
      ((s.row? (Store.new.run ops).tables).isSome ↔ ∃ row, row ∈ s.saved ops) ∧
      ∀ row, s.row? (Store.new.run ops).tables = some row ↔ IsNewest s.height (s.saved ops) row) ∧
    (∀ height, (Store.new.run ops).tables.lastPruned = some height ↔
      height ∈ lastPruned.saved ops ∧ ∀ h ∈ lastPruned.saved ops, h ≤ height) ∧
    ∀ (s : Slot) (op : Operation),
      (∀ row, s.row? (Store.new.run ops).tables = some row →
        ∃ row', s.row? (Store.new.run (ops ++ [op])).tables = some row' ∧
          s.height row ≤ s.height row') ∧
      (s.carried op = [] →
        s.row? (Store.new.run (ops ++ [op])).tables = s.row? (Store.new.run ops).tables) ∧
      ∀ height, s.row? (Store.new.run (ops ++ [.prune height])).tables =
        s.row? (Store.new.run ops).tables := by
  have newest_iff (s : Slot) (row : s.Row) :
      s.row? (Store.new.run ops).tables = some row ↔ IsNewest s.height (s.saved ops) row := by
    rw [row?_run]
    exact newest_eq_some_iff
  have untouched (s : Slot) (op : Operation) (none : s.carried op = []) :
      s.row? (Store.new.run (ops ++ [op])).tables = s.row? (Store.new.run ops).tables := by
    rw [row?_run_append]
    refine row?_after_of_carried_eq_nil ?_ _
    intro op' accepted
    rw [List.mem_singleton.1 (Store.mem_of_mem_accepted accepted)]
    exact none
  refine ⟨fun s => ⟨?_, newest_iff s⟩, ?_, fun s op => ⟨?_, untouched s op, ?_⟩⟩
  · rw [row?_run, Option.isSome_iff_ne_none, Ne, newest_eq_none_iff]
    exact ⟨List.exists_mem_of_ne_nil _, fun ⟨_, member⟩ => List.ne_nil_of_mem member⟩
  · intro height
    refine (newest_iff lastPruned height).trans ⟨fun h => ⟨h.mem, h.le⟩, ?_⟩
    rintro ⟨member, greatest⟩
    cases kept : newest id (lastPruned.saved ops) with
    | none =>
        rw [newest_eq_none_iff.1 kept] at member
        cases member
    | some top =>
        have isNewest := newest_eq_some_iff.1 kept
        have same : height = top := UInt64.le_antisymm (isNewest.le height member)
          (greatest top isNewest.mem)
        rw [same]
        exact isNewest
  · intro row stored
    rw [row?_run_append]
    exact s.height_le_after _ _ stored
  · intro height
    exact untouched s (.prune height) (s.carried_prune height)

example : supply.row? (Store.new.run [.saveSupply ⟨[], 2⟩, .saveSupply ⟨[⟨"unom", "5"⟩], 2⟩,
    .saveSupply ⟨[], 1⟩, .prune 9, .close, .saveSupply ⟨[], 3⟩]).tables =
      some ⟨[⟨"unom", "5"⟩], 2⟩ := by decide

end Slot
end ChainIndexer
