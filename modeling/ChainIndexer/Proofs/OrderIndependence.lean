import ChainIndexer.Proofs.Steady
import ChainIndexer.Proofs.Store.Replay

/-! Order independence. In a world that stays as it is, the tables that a crew ends with show which
heights it was given, and neither the order of the heights nor how the attempts were interleaved,
nor how often a height was given. -/
namespace ChainIndexer

/-- A node that answers for the heights it is asked about. -/
structure World.Regular (w : World) : Prop where
  block : ∀ height b, w.node (.block height) = .ok b → b.height = height
  validators : ∀ height set, w.node (.validators height) = .ok set → set.height = height

theorem World.Regular.heights {w : World} (regular : w.Regular) {height : Height}
    {data : Fetched} {signatures : List CommitSignature}
    (accepted : w.accept height = .ok (data, signatures)) :
    data.block.height = height ∧ data.validators.height = height := by
  obtain ⟨fetched, found, rest⟩ := bind_eq_ok accepted
  obtain ⟨_, _, rest⟩ := bind_eq_ok rest
  cases rest
  obtain ⟨block, answered, rest⟩ := bind_eq_ok found
  obtain ⟨results, _, rest⟩ := bind_eq_ok rest
  obtain ⟨txs, _, rest⟩ := bind_eq_ok rest
  obtain ⟨validators, answered', rest⟩ := bind_eq_ok rest
  cases rest
  exact ⟨regular.block height block answered, regular.validators height validators answered'⟩

/-- The rows that an operation writes for a block, where no other operation for the block writes
to the same table. -/
def Fetched.Prescribes (data : Fetched) (w : World) (operators : List Operator) :
    Operation → Prop
  | .saveValidators rows => rows = (correlate operators data.validators).validators
  | .saveDescriptions rows => rows = (correlate operators data.validators).descriptions
  | .saveStakingPool row => data.stakingPool w = .ok row
  | .saveVotingPowers rows => rows = data.votingPowers operators
  | .saveStatuses rows => rows = data.statuses operators
  | .saveSupply row => data.supply w = .ok row
  | .saveBalances rows => data.balances w = .ok rows
  | .saveInflation row => data.inflation w = .ok row
  | .saveIbcParams row => data.ibcParams w = .ok row
  | .saveBlock row => row = data.block.toRecord data.results.totalGas
  | .saveCommitSignatures _ | .saveTx _ | .saveMessages _ => True
  | _ => False

def GenesisDoc.Prescribes (doc : GenesisDoc) : Operation → Prop
  | .saveGenesis row => row = doc.genesis
  | .saveCommissions rows => ∃ state, Json.lookup? "staking" doc.appState = some state ∧
    doc.commissions state = .ok rows
  | _ => False

theorem Module.prescribed {w : World} {operators : List Operator} {data : Fetched} {m : Module}
    {op : Operation} (member : op ∈ m.writes w operators data) :
    data.Prescribes w operators op := by
  cases m with
  | staking =>
      obtain ⟨pool, answered, member⟩ := mem_ifAnswered.1 member
      simp only [List.mem_cons, List.not_mem_nil, or_false] at member
      rcases member with rfl | rfl | rfl
      · exact answered
      · rfl
      · rfl
  | bank =>
      obtain ⟨supply, answered, member⟩ := mem_ifAnswered.1 member
      rcases List.mem_cons.1 member with rfl | member
      · exact answered
      · obtain ⟨balances, answered, member⟩ := mem_ifAnswered.1 member
        obtain rfl := List.mem_singleton.1 member
        exact answered
  | mint =>
      obtain ⟨inflation, answered, member⟩ := mem_ifAnswered.1 member
      obtain rfl := List.mem_singleton.1 member
      exact answered
  | ibc =>
      obtain ⟨params, answered, member⟩ := mem_ifAnswered.1 member
      obtain rfl := List.mem_singleton.1 member
      exact answered
  | consensus => cases member
  | pruning config => cases member

theorem Module.genesis_prescribed {doc : GenesisDoc} {m : Module} {op : Operation}
    (member : op ∈ m.genesisWrites doc) : doc.Prescribes op := by
  cases m with
  | consensus =>
      obtain rfl := List.mem_singleton.1 member
      rfl
  | staking =>
      cases found : Json.lookup? "staking" doc.appState with
      | none =>
          simp only [Module.genesisWrites, found] at member
          cases member
      | some state =>
          simp only [Module.genesisWrites, found] at member
          obtain ⟨rows, made, member⟩ := mem_ifAnswered.1 member
          obtain rfl := List.mem_singleton.1 member
          exact ⟨state, found, made⟩
  | _ => cases member

/-- Commissions are as of the first height. Everything else is observed at heights. -/
def Slot.ofGenesis : Slot → Bool
  | .commission _ => true
  | _ => false

theorem Fetched.height_of_carried {w : World} {operators : List Operator} {data : Fetched}
    {op : Operation} {s : Slot}
    (p : data.Prescribes w operators op) (same : data.validators.height = data.block.height)
    {row : s.Row} (carried : row ∈ s.carried op) :
    s.ofGenesis = false ∧ s.height row = data.block.height := by
  cases s <;> cases op <;>
    first | exact absurd p id | exact absurd carried List.not_mem_nil | skip
  case validator.saveValidators =>
    cases p
    obtain ⟨v, _, rfl⟩ := List.mem_map.1 (List.mem_filter.1 carried).1
    exact ⟨rfl, same⟩
  case description.saveDescriptions =>
    cases p
    obtain ⟨v, _, rfl⟩ := List.mem_map.1 (List.mem_filter.1 carried).1
    exact ⟨rfl, same⟩
  case status.saveStatuses =>
    cases p
    obtain ⟨v, _, rfl⟩ := List.mem_map.1 (List.mem_filter.1 carried).1
    exact ⟨rfl, rfl⟩
  case votingPower.saveVotingPowers =>
    cases p
    obtain ⟨v, _, rfl⟩ := List.mem_map.1 (List.mem_filter.1 carried).1
    exact ⟨rfl, rfl⟩
  case balance.saveBalances =>
    obtain ⟨account, _, made⟩ := mem_of_mapM_eq_ok p row (List.mem_filter.1 carried).1
    obtain ⟨balances, _, made⟩ := bind_eq_ok made
    cases made
    exact ⟨rfl, rfl⟩
  all_goals
    obtain rfl := List.mem_singleton.1 carried
    obtain ⟨answer, _, made⟩ := bind_eq_ok p
    cases made
    exact ⟨rfl, rfl⟩

theorem GenesisDoc.height_of_carried {doc : GenesisDoc} {op : Operation} {s : Slot}
    (p : doc.Prescribes op) {row : s.Row} (carried : row ∈ s.carried op) :
    s.ofGenesis = true ∧ s.height row = doc.initialHeight := by
  cases s <;> cases op <;>
    first | exact absurd p id | exact absurd carried List.not_mem_nil | skip
  case commission.saveCommissions =>
    obtain ⟨state, _, made⟩ := p
    obtain ⟨validators, _, made⟩ := bind_eq_ok made
    cases made
    obtain ⟨v, _, rfl⟩ := List.mem_map.1 (List.mem_filter.1 carried).1
    exact ⟨rfl, rfl⟩

namespace Indexer

variable {ix : Indexer} {w : World} {height : Height} {op op' : Operation}

/-- What is written for height zero is prescribed by the genesis document, and what is written for
another height by what is fetched for it. -/
theorem prescribed_of_mem (member : op ∈ ix.writes w height) :
    (height = 0 ∧ ∃ doc, w.genesisDoc ix.genesisFile = .ok doc ∧ doc.Prescribes op) ∨
      (height ≠ 0 ∧ ∃ data signatures, w.accept height = .ok (data, signatures) ∧
        data.Prescribes w ix.operators op) := by
  unfold writes at member
  split at member
  · rename_i zero
    obtain ⟨doc, answered, member⟩ := mem_ifAnswered.1 member
    obtain ⟨m, _, member⟩ := List.mem_flatMap.1 member
    exact .inl ⟨zero, doc, answered, m.genesis_prescribed member⟩
  · rename_i positive
    obtain ⟨⟨data, signatures⟩, accepted, member⟩ := mem_ifAnswered.1 member
    refine .inr ⟨positive, data, signatures, accepted, ?_⟩
    rcases List.mem_append.1 member with member | member
    · rcases List.mem_append.1 member with member | member
      · simp only [Fetched.writes, Transaction.writes, List.mem_append, List.mem_cons,
          List.mem_flatMap] at member
        rcases member with (rfl | rfl | rfl | none) | ⟨tx, _, rfl | rfl | none⟩ <;>
          first | rfl | trivial
      · obtain ⟨m, _, member⟩ := List.mem_flatMap.1 member
        exact m.prescribed member
    · obtain rfl := List.mem_singleton.1 member
      rfl

theorem eq_of_carried {s : Slot} (member : op ∈ ix.writes w height)
    (member' : op' ∈ ix.writes w height) {row row' : s.Row} (carried : row ∈ s.carried op)
    (carried' : row' ∈ s.carried op') : op = op' := by
  rcases prescribed_of_mem member with ⟨zero, doc, answered, p⟩ | ⟨positive, data, _, accepted, p⟩
  · rcases prescribed_of_mem member' with ⟨_, doc', answered', p'⟩ | ⟨positive, _⟩
    · obtain rfl := Except.ok.inj (answered.symm.trans answered')
      cases op with
      | saveCommissions rows =>
          cases s with
          | commission operator =>
              cases op' with
              | saveCommissions rows' =>
                  obtain ⟨state, found, made⟩ := p
                  obtain ⟨state', found', made'⟩ := p'
                  cases found.symm.trans found'
                  cases made.symm.trans made'
                  rfl
              | _ => cases carried'
          | _ => cases carried
      | saveGenesis row => cases s <;> cases carried
      | _ => cases p
    · exact absurd zero positive
  · rcases prescribed_of_mem member' with ⟨zero, _⟩ | ⟨_, data', _, accepted', p'⟩
    · exact absurd zero positive
    · cases accepted.symm.trans accepted'
      -- the slot settles which kind of operation it is, and the data settle its rows
      cases s <;> cases op <;>
        first | exact absurd p id | exact absurd carried List.not_mem_nil | skip
      all_goals cases op' <;> first | exact absurd carried' List.not_mem_nil | skip
      all_goals first | (cases Eq.trans p (Eq.symm p'); rfl) | (cases Eq.trans (Eq.symm p) p'; rfl)

theorem height_of_carried (regular : w.Regular) {s : Slot} (member : op ∈ ix.writes w height)
    {row : s.Row} (carried : row ∈ s.carried op) :
    (height ≠ 0 ∧ s.ofGenesis = false ∧ s.height row = height) ∨
      (height = 0 ∧ s.ofGenesis = true ∧ ∃ doc, w.genesisDoc ix.genesisFile = .ok doc ∧
        s.height row = doc.initialHeight) := by
  rcases prescribed_of_mem member with ⟨zero, doc, answered, p⟩ | ⟨positive, data, _, accepted, p⟩
  · obtain ⟨ofGenesis, same⟩ := GenesisDoc.height_of_carried p carried
    exact .inr ⟨zero, ofGenesis, doc, answered, same⟩
  · obtain ⟨block, validators⟩ := regular.heights accepted
    obtain ⟨observed, same⟩ := Fetched.height_of_carried p (validators.trans block.symm) carried
    exact .inl ⟨positive, observed, same.trans block⟩

theorem height_eq_iff (regular : w.Regular) {height' : Height} {s : Slot}
    (member : op ∈ ix.writes w height) (member' : op' ∈ ix.writes w height') {row row' : s.Row}
    (carried : row ∈ s.carried op) (carried' : row' ∈ s.carried op') :
    s.height row = s.height row' ↔ height = height' := by
  rcases height_of_carried regular member carried with
    ⟨_, observed, eq⟩ | ⟨zero, genesis, doc, answered, eq⟩
  · rcases height_of_carried regular member' carried' with ⟨_, _, eq'⟩ | ⟨_, genesis, _⟩
    · rw [eq, eq']
    · exact Bool.noConfusion (observed.symm.trans genesis)
  · rcases height_of_carried regular member' carried' with
      ⟨_, observed, _⟩ | ⟨zero', _, doc', answered', eq'⟩
    · exact Bool.noConfusion (observed.symm.trans genesis)
    · cases answered.symm.trans answered'
      rw [eq, eq', zero, zero']
      exact ⟨fun _ => rfl, fun _ => rfl⟩

theorem height_of_saveBlock (regular : w.Regular) {row : BlockRecord}
    (member : .saveBlock row ∈ ix.writes w height) : row.height = height := by
  rcases prescribed_of_mem member with ⟨_, _, _, p⟩ | ⟨_, data, _, accepted, p⟩
  · exact absurd p id
  · cases p
    exact (regular.heights accepted).1

theorem saveBlock_unique {row row' : BlockRecord} (member : .saveBlock row ∈ ix.writes w height)
    (member' : .saveBlock row' ∈ ix.writes w height) : row = row' := by
  rcases prescribed_of_mem member with ⟨_, _, _, p⟩ | ⟨_, data, _, accepted, p⟩
  · exact absurd p id
  · rcases prescribed_of_mem member' with ⟨_, _, _, p'⟩ | ⟨_, data', _, accepted', p'⟩
    · exact absurd p' id
    · cases accepted.symm.trans accepted'
      exact Eq.trans p (Eq.symm p')

theorem saveGenesis_unique {height' : Height} {row row' : Genesis}
    (member : .saveGenesis row ∈ ix.writes w height)
    (member' : .saveGenesis row' ∈ ix.writes w height') : row = row' := by
  rcases prescribed_of_mem member with ⟨_, doc, answered, p⟩ | ⟨_, _, _, _, p⟩
  · rcases prescribed_of_mem member' with ⟨_, doc', answered', p'⟩ | ⟨_, _, _, _, p'⟩
    · cases answered.symm.trans answered'
      exact Eq.trans p (Eq.symm p')
    · exact absurd p' id
  · exact absurd p id

end Indexer

/-- Tables that tell the same, but for averages of block times. A transaction, message or signature
may come with more than one row, so for these it counts whether they are there. -/
structure Tables.Agree (t u : Tables) : Prop where
  blocks : t.blocks = u.blocks
  validators : t.validators = u.validators
  descriptions : t.descriptions = u.descriptions
  commissions : t.commissions = u.commissions
  statuses : t.statuses = u.statuses
  votingPowers : t.votingPowers = u.votingPowers
  balances : t.balances = u.balances
  stakingPool : t.stakingPool = u.stakingPool
  supply : t.supply = u.supply
  inflation : t.inflation = u.inflation
  ibcParams : t.ibcParams = u.ibcParams
  genesis : t.genesis = u.genesis
  txs : ∀ hash, t.txs.contains hash = u.txs.contains hash
  messages : ∀ key, t.messages.contains key = u.messages.contains key
  commitSignatures : ∀ key, t.commitSignatures.contains key = u.commitSignatures.contains key

/-- A log shows what is written for certain heights and, averages aside, nothing else. -/
structure Shows (ix : Indexer) (w : World) (heights : Height → Prop) (log : List Operation) :
    Prop where
  mem_iff : ∀ op, op.records = true → (op ∈ log ↔ ∃ h, heights h ∧ op ∈ ix.writes w h)
  retains : ∀ op ∈ log, op.prunes = false

namespace Shows

variable {ix : Indexer} {w : World} {heights : Height → Prop} {one other : List Operation}

theorem slot (h : Shows ix w heights one) (h' : Shows ix w heights other) (regular : w.Regular)
    (s : Slot) (lasting : ∀ period, s ≠ .averageBlockTime period) :
    s.row? (({} : Tables).after one) = s.row? (({} : Tables).after other) := by
  have records : ∀ op, s.carried op ≠ [] → op.records = true := by
    intro op carried
    cases s <;> cases op <;>
      first | rfl | exact absurd rfl carried | exact absurd rfl (lasting _)
  rw [s.row?_after_empty, s.row?_after_empty]
  have shown {op : Operation} (member : op ∈ one) {row : s.Row} (carried : row ∈ s.carried op) :
      ∃ height, op ∈ ix.writes w height := by
    obtain ⟨height, _, written⟩ :=
      (h.mem_iff op (records op (List.ne_nil_of_mem carried))).1 member
    exact ⟨height, written⟩
  refine newest_flatMap_congr ?_ ?_ ?_
  · intro op carried
    rw [h.mem_iff op (records op carried), h'.mem_iff op (records op carried)]
  · intro op member row carried row' carried'
    obtain ⟨height, written⟩ := shown member carried
    exact (Indexer.height_eq_iff regular written written carried carried').2 rfl
  · intro op member op' member' row carried row' carried' level
    obtain ⟨height, written⟩ := shown member carried
    obtain ⟨height', written'⟩ := shown member' carried'
    obtain rfl := (Indexer.height_eq_iff regular written written' carried carried').1 level
    exact Indexer.eq_of_carried written written' carried carried'

theorem entry (h : Shows ix w heights one) (h' : Shows ix w heights other) (e : Entry) :
    (e.row? (({} : Tables).after one)).isSome = (e.row? (({} : Tables).after other)).isSome := by
  rw [Bool.eq_iff_iff, e.isSome_row?_after_empty h.retains, e.isSome_row?_after_empty h'.retains]
  have records : ∀ op, e.carried op ≠ [] → op.records = true := by
    intro op carried
    cases e <;> cases op <;> first | rfl | exact absurd rfl carried
  constructor
  · rintro ⟨op, member, carried⟩
    exact ⟨op, (h'.mem_iff op (records op carried)).2
      ((h.mem_iff op (records op carried)).1 member), carried⟩
  · rintro ⟨op, member, carried⟩
    exact ⟨op, (h.mem_iff op (records op carried)).2
      ((h'.mem_iff op (records op carried)).1 member), carried⟩

theorem mem_of_block (h : Shows ix w heights one) (regular : w.Regular) {height : Height}
    {row : BlockRecord} (stored : (({} : Tables).after one).blocks.get? height = some row) :
    .saveBlock row ∈ ix.writes w height := by
  obtain ⟨op, member, carried⟩ := Entry.exists_of_row?_eq_some (.block height) stored
  cases op with
  | saveBlock saved =>
      obtain ⟨same, key⟩ := List.mem_filter.1 carried
      obtain rfl := List.mem_singleton.1 same
      obtain ⟨height', _, written⟩ := (h.mem_iff _ rfl).1 member
      have eq := Indexer.height_of_saveBlock regular written
      rw [← of_decide_eq_true key, eq]
      exact written
  | _ => cases carried

theorem block (h : Shows ix w heights one) (h' : Shows ix w heights other) (regular : w.Regular) :
    (({} : Tables).after one).blocks = (({} : Tables).after other).blocks := by
  refine Table.ext_get? fun height => ?_
  have both : ((({} : Tables).after one).blocks.get? height).isSome =
      ((({} : Tables).after other).blocks.get? height).isSome := h.entry h' (.block height)
  cases stored : (({} : Tables).after one).blocks.get? height with
  | none =>
      rw [stored] at both
      exact (Option.isNone_iff_eq_none.1 (by simpa using both.symm)).symm
  | some row =>
      rw [stored] at both
      obtain ⟨row', stored'⟩ := Option.isSome_iff_exists.1 both.symm
      have written := h.mem_of_block regular stored
      have written' := h'.mem_of_block regular stored'
      rw [stored', Indexer.saveBlock_unique written written']

theorem genesis (h : Shows ix w heights one) (h' : Shows ix w heights other) :
    (({} : Tables).after one).genesis = (({} : Tables).after other).genesis := by
  have same (row : Genesis) : .saveGenesis row ∈ one ↔ .saveGenesis row ∈ other :=
    (h.mem_iff _ rfl).trans (h'.mem_iff _ rfl).symm
  cases stored : (({} : Tables).after one).genesis with
  | none =>
      cases stored' : (({} : Tables).after other).genesis with
      | none => rfl
      | some row =>
          obtain ⟨_, found⟩ := Tables.exists_genesis ((same row).2 (Tables.mem_of_genesis stored'))
          rw [stored] at found
          cases found
  | some row =>
      have done := Tables.mem_of_genesis stored
      obtain ⟨row', stored'⟩ := Tables.exists_genesis ((same row).1 done)
      obtain ⟨_, _, written⟩ := (h.mem_iff _ rfl).1 done
      obtain ⟨_, _, written'⟩ := (h'.mem_iff _ rfl).1 (Tables.mem_of_genesis stored')
      rw [stored', Indexer.saveGenesis_unique written written']

theorem agree (h : Shows ix w heights one) (h' : Shows ix w heights other) (regular : w.Regular) :
    (({} : Tables).after one).Agree (({} : Tables).after other) := by
  have slots (s : Slot) := h.slot h' regular s
  exact {
    blocks := h.block h' regular
    validators := Table.ext_get? fun address => slots (.validator address) nofun
    descriptions := Table.ext_get? fun operator => slots (.description operator) nofun
    commissions := Table.ext_get? fun operator => slots (.commission operator) nofun
    statuses := Table.ext_get? fun operator => slots (.status operator) nofun
    votingPowers := Table.ext_get? fun operator => slots (.votingPower operator) nofun
    balances := Table.ext_get? fun account => slots (.balance account) nofun
    stakingPool := slots .stakingPool nofun
    supply := slots .supply nofun
    inflation := slots .inflation nofun
    ibcParams := slots .ibcParams nofun
    genesis := h.genesis h'
    txs := fun hash => h.entry h' (.tx hash)
    messages := fun key => h.entry h' (.message key)
    commitSignatures := fun key => h.entry h' (.signature key) }

end Shows

namespace Crew

def indexing (ix : Indexer) (work : List (Nat × Height)) : Crew :=
  start ix (work.map fun (worker, height) => ⟨worker, .index height⟩)

variable {ix : Indexer} {w : World}

/-- In a world that stays as it is, the attempts of a crew can rely on each other. -/
theorem keeps_indexing (retains : ix.registry.Retains) (work : List (Nat × Height))
    (schedule : List Nat) :
    ∀ u ∈ ((indexing ix work).play (w.moves schedule)).attempts, u.Keeps (ix.steady w)
      fun job _ past => ∀ height, job.task = .index height →
        Steady.Settled ix w height past := by
  refine keeps_play ?_ ?_
  · intro job given
    obtain ⟨⟨worker, height⟩, _, rfl⟩ := List.mem_map.1 given
    refine Program.Keeps.imp (fun _ _ h => h) (fun _ _ _ h => h) ?_
      (Steady.keeps_processIfMissing { ix with worker } w retains height)
    intro ended past settled height' same
    cases same
    cases ended <;> exact settled
  · intro m member crew log shown kept u present c permitted
    obtain ⟨i, _, rfl⟩ := List.mem_map.1 member
    have upheld : ∀ op ∈ log, op.upholds ix.operators := by
      intro op done
      obtain ⟨_, _, _, _, permitted⟩ := shown.agreed kept done
      exact permitted
    cases c with
    | ask query => exact rfl
    | load path => exact rfl
    | log line => exact trivial
    | perform op =>
        have openStore : crew.store.closed = false := by
          cases closed : crew.store.closed with
          | false => rfl
          | true => exact (upheld .close (shown.closed closed)).elim
        have accepts : ¬ crew.store.refuses op = true := by simp [Store.refuses, openStore]
        refine ⟨log, ?_, upheld, ?_⟩
        · intro done performed
          exact (shown.mem_iff done).2 ⟨u, present, performed⟩
        · rw [← shown.tables]
          exact (Store.perform_accepted accepts).1

theorem log_indexing (ix : Indexer) (work : List (Nat × Height)) (moves : List Move) :
    ∃ log, ((indexing ix work).play moves).Log log := ⟨_, (log_start ix _).play moves⟩

theorem jobs_indexing (ix : Indexer) (work : List (Nat × Height)) (moves : List Move) :
    ((indexing ix work).play moves).attempts.map Underway.job =
      work.map fun (worker, height) => ⟨worker, .index height⟩ := by
  rw [jobs_play, indexing, start, List.map_map]
  exact List.map_id _

theorem settled_of_ended (retains : ix.registry.Retains) {work : List (Nat × Height)}
    {schedule : List Nat} (ended : ((indexing ix work).play (w.moves schedule)).Ended)
    {u : Underway} (member : u ∈ ((indexing ix work).play (w.moves schedule)).attempts)
    {height : Height} (task : u.job.task = .index height) : Steady.Settled ix w height u.past := by
  have kept := (keeps_indexing retains work schedule u member).rest
  have finished := ended u member
  unfold Underway.ended at finished
  split at finished
  · rename_i ended rest
    rw [rest] at kept
    exact kept height task
  · cases finished

theorem shows_of_ended (regular : w.Regular) (retains : ix.registry.Retains)
    {work : List (Nat × Height)} {schedule : List Nat}
    (ended : ((indexing ix work).play (w.moves schedule)).Ended) {log : List Operation}
    (shown : ((indexing ix work).play (w.moves schedule)).Log log) :
    Shows ix w (· ∈ work.map Prod.snd) log := by
  have performed {u : Underway}
      (member : u ∈ ((indexing ix work).play (w.moves schedule)).attempts) {op : Operation}
      (recorded : op ∈ u.past.recorded) : op ∈ log :=
    (shown.mem_iff op).2 ⟨u, member, (History.mem_recorded.1 recorded).1⟩
  have recorded {op : Operation} (done : op ∈ log) (records : op.records = true) :
      ∃ height ∈ work.map Prod.snd, op ∈ ix.writes w height ∧
        ∀ op ∈ ix.writes w height, op ∈ log := by
    obtain ⟨u, member, done⟩ := (shown.mem_iff op).1 done
    have recorded := History.mem_recorded.2 ⟨done, records⟩
    have listed : u.job ∈ work.map fun (worker, height) => (⟨worker, .index height⟩ : Job) := by
      rw [← jobs_indexing ix work (w.moves schedule)]
      exact List.mem_map_of_mem member
    obtain ⟨⟨worker, height⟩, given, job⟩ := List.mem_map.1 listed
    rcases settled_of_ended retains ended member (congrArg Job.task job.symm) with
      written | ⟨nothing, _⟩
    · rw [written] at recorded
      exact ⟨height, List.mem_map_of_mem given, recorded,
        fun op listed => performed member (written ▸ listed)⟩
    · rw [nothing] at recorded
      cases recorded
  have keeps : ∀ op ∈ log, op.prunes = false := by
    intro op done
    obtain ⟨u, member, done⟩ := (shown.mem_iff op).1 done
    obtain ⟨a, passed⟩ := History.mem_performed.1 done
    obtain ⟨before, _, upholds⟩ :=
      (keeps_indexing retains work schedule u member).past.of_mem passed
    cases op <;> first | rfl | exact absurd upholds id
  refine ⟨fun op records => ⟨?_, ?_⟩, keeps⟩
  · intro done
    obtain ⟨height, given, written, _⟩ := recorded done records
    exact ⟨height, given, written⟩
  · rintro ⟨height, given, listed⟩
    obtain ⟨⟨worker, height⟩, assigned, rfl⟩ := List.mem_map.1 given
    have job : _ ∈ work.map fun (worker, height) => (⟨worker, .index height⟩ : Job) :=
      List.mem_map_of_mem assigned
    rw [← jobs_indexing ix work (w.moves schedule)] at job
    obtain ⟨u, member, job⟩ := List.mem_map.1 job
    rcases settled_of_ended retains ended member (congrArg Job.task job) with
      written | ⟨_, found⟩
    · exact performed member (written ▸ listed)
    · -- the attempt was spared, and the block that it found was stored by another one
      obtain ⟨earlier, before, answer⟩ := shown.answers u member _ _ found
      obtain ⟨op, done, carried⟩ := (Entry.isSome_row?_after_empty (.block height)
        fun op done => keeps op (before.subset done)).1 answer.symm
      cases op with
      | saveBlock row =>
          obtain ⟨row', kept⟩ := List.exists_mem_of_ne_nil _ carried
          obtain ⟨same, key⟩ := List.mem_filter.1 kept
          obtain rfl := List.mem_singleton.1 same
          obtain ⟨height', _, stored, complete⟩ := recorded (before.subset done) rfl
          have same : height = height' := (of_decide_eq_true key).symm.trans
            (Indexer.height_of_saveBlock regular stored)
          exact complete op (same ▸ listed)
      | _ => exact absurd rfl carried

/-- The tables that a crew ends with do not depend on the order in which heights are given, nor on
how often each is given, by whom, or on how the attempts are interleaved: if two crews are given
the same heights in a world that stays as it is, and all of their attempts have ended, then their
tables agree. -/
theorem order_independence (ix : Indexer) (w : World) (regular : w.Regular)
    (retains : ix.registry.Retains) (work other : List (Nat × Height))
    (same : ∀ height, height ∈ work.map Prod.snd ↔ height ∈ other.map Prod.snd)
    (schedule schedule' : List Nat)
    (ended : ((indexing ix work).play (w.moves schedule)).Ended)
    (ended' : ((indexing ix other).play (w.moves schedule')).Ended) :
    ((indexing ix work).play (w.moves schedule)).store.tables.Agree
      ((indexing ix other).play (w.moves schedule')).store.tables := by
  obtain ⟨log, shown⟩ := log_indexing ix work (w.moves schedule)
  obtain ⟨log', shown'⟩ := log_indexing ix other (w.moves schedule')
  have one := shows_of_ended regular retains ended shown
  have two := shows_of_ended regular retains ended' shown'
  have two' : Shows ix w (· ∈ work.map Prod.snd) log' := by
    refine ⟨fun op records => (two.mem_iff op records).trans ?_, two.retains⟩
    exact exists_congr fun height => and_congr_left fun _ => (same height).symm
  rw [shown.tables, shown'.tables]
  exact one.agree two' regular

theorem regular_quiet : World.quiet.Regular where
  block height b answered := by
    cases answered
    rfl
  validators height set answered := by
    cases answered
    rfl

/-- Two workers in turns, and one worker who is given the heights the other way round. -/
theorem order_independence_quiet :
    ∃ one other : Crew,
      one = (indexing .quiet [(1, 0), (2, 1), (1, 2)]).play
        (World.quiet.moves ((List.range 120).map (· % 3))) ∧
      other = (indexing .quiet [(1, 2), (1, 1), (1, 2), (1, 0)]).play
        (World.quiet.moves ((List.range 160).map (· / 40))) ∧
      World.quiet.Regular ∧ Indexer.quiet.registry.Retains ∧
      (∀ height : Height, height ∈ [(1, 0), (2, 1), (1, 2)].map Prod.snd ↔
        height ∈ [(1, 2), (1, 1), (1, 2), (1, 0)].map Prod.snd) ∧
      one.Ended ∧ other.Ended ∧ one.store.tables.blocks.size = 2 ∧
      one.store.tables.Agree other.store.tables := by
  have same : ∀ height : Height, height ∈ [(1, 0), (2, 1), (1, 2)].map Prod.snd ↔
      height ∈ [(1, 2), (1, 1), (1, 2), (1, 0)].map Prod.snd := by
    intro height
    simp only [List.map_cons, List.map_nil, List.mem_cons, List.not_mem_nil, or_false]
    grind
  have ended : ((indexing .quiet [(1, 0), (2, 1), (1, 2)]).play
      (World.quiet.moves ((List.range 120).map (· % 3)))).Ended := by decide +kernel
  have ended' : ((indexing .quiet [(1, 2), (1, 1), (1, 2), (1, 0)]).play
      (World.quiet.moves ((List.range 160).map (· / 40)))).Ended := by decide +kernel
  exact ⟨_, _, rfl, rfl, regular_quiet, Indexer.quiet_retains, same, ended, ended',
    by decide +kernel, order_independence .quiet .quiet regular_quiet Indexer.quiet_retains
      _ _ same _ _ ended ended'⟩

end Crew
end ChainIndexer
