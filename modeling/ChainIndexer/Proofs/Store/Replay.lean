import ChainIndexer.Proofs.Store.Entry
import ChainIndexer.Proofs.Store.Slot

/-! Repeating operations. The tables are slots, entries and the genesis row. Operations that remove
nothing may be cut short and begun again: what the first attempt left behind does not show. -/
namespace ChainIndexer

def Operation.genesisRow? : Operation → Option Genesis
  | .saveGenesis row => some row
  | _ => none

theorem Tables.genesis_effect (t : Tables) (op : Operation) :
    (op.effect t).genesis = op.genesisRow?.or t.genesis := by
  cases op <;> rfl

theorem Tables.genesis_after (t : Tables) (ops : List Operation) :
    (t.after ops).genesis = (ops.filterMap Operation.genesisRow?).getLast?.or t.genesis := by
  induction ops generalizing t with
  | nil => rfl
  | cons op ops ih =>
      rw [Tables.after_cons, ih, Tables.genesis_effect, List.filterMap_cons]
      cases op.genesisRow? with
      | none => rfl
      | some row =>
          rw [List.getLast?_cons]
          cases (ops.filterMap Operation.genesisRow?).getLast? <;> rfl

theorem Tables.mem_of_genesis {ops : List Operation} {row : Genesis}
    (stored : (({} : Tables).after ops).genesis = some row) : .saveGenesis row ∈ ops := by
  rw [genesis_after, Option.or_none] at stored
  obtain ⟨op, member, carried⟩ := List.mem_filterMap.1 (List.mem_of_getLast? stored)
  cases op with
  | saveGenesis saved =>
      cases carried
      exact member
  | _ => cases carried

theorem Tables.exists_genesis {ops : List Operation} {row : Genesis}
    (done : .saveGenesis row ∈ ops) : ∃ row', (({} : Tables).after ops).genesis = some row' := by
  have carried : row ∈ ops.filterMap Operation.genesisRow? :=
    List.mem_filterMap.2 ⟨_, done, rfl⟩
  rw [genesis_after, Option.or_none, List.getLast?_eq_some_getLast (List.ne_nil_of_mem carried)]
  exact ⟨_, rfl⟩

theorem Tables.ext_places {t u : Tables} (slots : ∀ s : Slot, s.row? t = s.row? u)
    (entries : ∀ e : Entry, e.row? t = e.row? u) (genesis : t.genesis = u.genesis) : t = u := by
  have blocks := Table.ext_get? fun k => entries (.block k)
  have txs := Table.ext_get? fun k => entries (.tx k)
  have messages := Table.ext_get? fun k => entries (.message k)
  have commitSignatures := Table.ext_get? fun k => entries (.signature k)
  have validators := Table.ext_get? fun k => slots (.validator k)
  have descriptions := Table.ext_get? fun k => slots (.description k)
  have commissions := Table.ext_get? fun k => slots (.commission k)
  have statuses := Table.ext_get? fun k => slots (.status k)
  have votingPowers := Table.ext_get? fun k => slots (.votingPower k)
  have balances := Table.ext_get? fun k => slots (.balance k)
  have averageBlockTimes := Table.ext_get? fun k => slots (.averageBlockTime k)
  have stakingPool : t.stakingPool = u.stakingPool := slots .stakingPool
  have supply : t.supply = u.supply := slots .supply
  have inflation : t.inflation = u.inflation := slots .inflation
  have ibcParams : t.ibcParams = u.ibcParams := slots .ibcParams
  have lastPruned : t.lastPruned = u.lastPruned := slots .lastPruned
  cases t
  cases u
  congr

/-- Operations that begin with those done before undo nothing and add nothing to them. -/
theorem Tables.after_redo {t : Tables} {again ops : List Operation} (begun : again <+: ops)
    (keeps : ∀ op ∈ ops, op.prunes = false) : (t.after again).after ops = t.after ops := by
  have keeps' : ∀ op ∈ again, op.prunes = false := fun op member => keeps op (begun.subset member)
  obtain ⟨rest, rfl⟩ := begun
  refine Tables.ext_places ?_ ?_ ?_
  · intro s
    rw [← Tables.after_append, s.row?_after, s.row?_after, List.flatMap_append, ← List.append_assoc]
    refine newest_redo ?_
    intro row member
    rw [List.flatMap_append]
    exact List.mem_append_left _ member
  · intro e
    rw [e.row?_after keeps, e.row?_after keeps, e.row?_after keeps', Option.or_assoc,
      List.flatMap_append, List.head?_append]
    congr 1
    rw [← Option.or_assoc, Option.or_self]
  · rw [Tables.genesis_after, Tables.genesis_after, Tables.genesis_after t, List.filterMap_append,
      List.getLast?_append, Option.or_assoc, Option.or_assoc]
    congr 1
    rw [← Option.or_assoc, Option.or_self]

end ChainIndexer
