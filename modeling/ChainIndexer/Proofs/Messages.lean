import ChainIndexer.Proofs.Hex
import ChainIndexer.Proofs.InTurn
import ChainIndexer.Proofs.Retention

/-! Messages of stored transactions. A transaction and its messages are written by operations of
their own, each skips what is there, and each table is pruned by itself. They stay together all the
same: what a raw transaction says does not depend on the block it is in, but for the height, and
the height of the messages is that of the transaction. -/
namespace ChainIndexer

theorem txHash_inj {raw raw' : Bytes} : txHash raw = txHash raw' ↔ sha256 raw = sha256 raw' :=
  ⟨Hex.encodeUpper_injective, congrArg Hex.encodeUpper⟩

namespace Transaction

@[simp] theorem hash_ofRaw (raw : Bytes) (height : Height) :
    (ofRaw raw height).hash = txHash raw := by
  unfold ofRaw
  split <;> rfl

theorem messages_ofRaw (raw : Bytes) (height height' : Height) :
    (ofRaw raw height).messages = (ofRaw raw height').messages := by
  unfold ofRaw
  split <;> rfl

def messageRow (tx : Transaction) (m : TxMessage) (index : Nat) : MessageRow :=
  { txHash := tx.hash, index, height := tx.height, type := m.type, value := m.value
    involvedAccounts := m.value.involvedAccounts }

variable {tx : Transaction} {row : MessageRow} {key : MessageRow.Key}

theorem mem_messageRows : row ∈ tx.messageRows ↔
    ∃ m index, tx.messages[index]? = some m ∧ tx.messageRow m index = row := by
  simp only [messageRows, List.mem_map, Prod.exists, List.mem_zipIdx_iff_getElem?]
  rfl

theorem height_of_mem_messageRows (listed : row ∈ tx.messageRows) : row.height = tx.height := by
  obtain ⟨m, index, _, rfl⟩ := mem_messageRows.1 listed
  rfl

theorem ascending_messageRows (tx : Transaction) :
    tx.messageRows.Pairwise fun a b => compare a.key b.key = .lt := by
  have places : tx.messages.zipIdx.Pairwise fun a b => a.2 < b.2 := by
    rw [← List.pairwise_map (f := Prod.snd) (R := (· < ·)), List.zipIdx_map_snd]
    exact List.pairwise_lt_range'
  apply List.pairwise_map.2
  apply places.imp
  intro a b below
  change (compare tx.hash tx.hash).then (compare a.2 b.2) = .lt
  have same : compare tx.hash tx.hash = .eq := Std.ReflCmp.compare_self
  rw [same, Nat.compare_eq_lt.2 below]
  rfl

def messageTable (tx : Transaction) : Table MessageRow.key :=
  ⟨tx.messageRows, tx.ascending_messageRows⟩

theorem contains_messageTable : tx.messageTable.contains key = true ↔
    tx.hash = key.txHash ∧ key.index < tx.messages.length := by
  rw [Table.contains_iff]
  constructor
  · rintro ⟨row, listed, rfl⟩
    obtain ⟨m, index, said, rfl⟩ := mem_messageRows.1 listed
    exact ⟨rfl, (List.getElem?_eq_some_iff.1 said).1⟩
  · rintro ⟨hash, within⟩
    refine ⟨tx.messageRow tx.messages[key.index] key.index, ?_, ?_⟩
    · exact mem_messageRows.2 ⟨_, _, List.getElem?_eq_getElem within, rfl⟩
    · obtain ⟨_, index⟩ := key
      cases hash
      rfl

theorem get?_messageTable_of_ne (other : tx.hash ≠ key.txHash) :
    tx.messageTable.get? key = none := by
  rw [← Option.not_isSome_iff_eq_none]
  exact fun taken => other (contains_messageTable.1 taken).1

theorem filter_get?_messageTable (boundary : Height) :
    (tx.messageTable.get? key).filter (fun row => boundary ≤ row.height) =
      if boundary ≤ tx.height then tx.messageTable.get? key else none := by
  cases found : tx.messageTable.get? key with
  | none => simp
  | some row =>
      have level := height_of_mem_messageRows (Table.get?_eq_some_iff.1 found).1
      simp [Option.filter, level]

/-- A transaction that is stored already lacks no message of another that says the same. -/
theorem get?_messageTable_or {tx' : Transaction} (hash : tx.hash = tx'.hash)
    (messages : tx.messages = tx'.messages) (key : MessageRow.Key) :
    (tx'.messageTable.get? key).or (tx.messageTable.get? key) = tx'.messageTable.get? key := by
  cases found : tx'.messageTable.get? key with
  | some row => rfl
  | none =>
      rw [Option.none_or, ← Option.not_isSome_iff_eq_none]
      intro taken
      have taken' : tx'.messageTable.contains key = true := by
        rw [contains_messageTable, ← hash, ← messages]
        exact contains_messageTable.1 taken
      rw [Table.contains, found] at taken'
      cases taken'

end Transaction

/-- Operations that save certain transactions, each with its messages, and no others. -/
def Operation.Convey (txs : List Transaction) (ops : List Operation) : Prop :=
  ∃ before after, ops = before ++ txs.flatMap Transaction.writes ++ after ∧
    ∀ op ∈ before ++ after, op.savesTransaction = false

theorem Operation.convey_nothing {ops : List Operation}
    (saves : ∀ op ∈ ops, op.savesTransaction = false) : Convey [] ops :=
  ⟨ops, [], by simp, by simpa using saves⟩

theorem Registry.savesTransaction_of_uses {r : Registry} {op : Operation}
    (used : r.uses op = true) : op.savesTransaction = false := by
  obtain ⟨m, _, used⟩ := List.any_eq_true.1 used
  cases m <;> cases op <;> first | rfl | cases used

theorem Indexer.Persists.convey {ix : Indexer} {data : Fetched}
    {signatures : List CommitSignature} {ops : List Operation}
    (h : ix.Persists data signatures ops) : Operation.Convey data.txs ops := by
  obtain ⟨served, handles⟩ := h
  refine ⟨_, served ++ [.saveBlock data.blockRow], List.append_assoc _ _ _, ?_⟩
  · intro op member
    simp only [List.mem_append, List.mem_cons, List.not_mem_nil, or_false] at member
    rcases member with (rfl | rfl | rfl) | used | rfl
    · rfl
    · rfl
    · rfl
    · exact Registry.savesTransaction_of_uses (handles.1 op used)
    · rfl

namespace Tables

/-- Every message that is stored is one of a stored transaction, and every message of a stored
transaction is stored. The stored transactions are made of certain raw ones. -/
structure Paired (raws : List Bytes) (t : Tables) : Prop where
  made : ∀ hash tx, t.txs.get? hash = some tx → ∃ raw ∈ raws, ∃ height, tx = .ofRaw raw height
  messages : ∀ key, t.messages.get? key =
    (t.txs.get? key.txHash).bind fun tx => tx.messageTable.get? key

namespace Paired

variable {raws : List Bytes} {t : Tables}

theorem empty : Paired [] {} := ⟨nofun, fun _ => rfl⟩

theorem mono (h : t.Paired raws) {more : List Bytes} (sub : raws ⊆ more) : t.Paired more where
  made hash tx stored := by
    obtain ⟨raw, member, height, rfl⟩ := h.made hash tx stored
    exact ⟨raw, sub member, height, rfl⟩
  messages := h.messages

theorem prune (h : t.Paired raws) (boundary : Height) : (t.prune boundary).Paired raws where
  made hash tx stored := by
    change (t.txs.filter _).get? hash = _ at stored
    rw [Table.get?_filter, Option.filter_eq_some_iff] at stored
    exact h.made hash tx stored.1
  messages key := by
    change (t.messages.filter _).get? key = ((t.txs.filter _).get? key.txHash).bind _
    rw [Table.get?_filter, Table.get?_filter, h.messages]
    cases t.txs.get? key.txHash with
    | none => rfl
    | some tx =>
        rw [Option.bind_some, Transaction.filter_get?_messageTable, Option.filter_some]
        by_cases kept : boundary ≤ tx.height
        · simp [kept]
        · simp [kept]

theorem effect (h : t.Paired raws) {op : Operation} (saves : op.savesTransaction = false) :
    (op.effect t).Paired raws := by
  have aside (txs : op.changes .txs = false) (messages : op.changes .messages = false) :
      (op.effect t).Paired raws := by
    have txs : (op.effect t).txs = t.txs := @Operation.part_effect op .txs txs t
    have messages : (op.effect t).messages = t.messages :=
      @Operation.part_effect op .messages messages t
    refine ⟨?_, ?_⟩
    · rw [txs]
      exact h.made
    · rw [txs, messages]
      exact h.messages
  cases op with
  | prune boundary => exact h.prune boundary
  | saveTx _ | saveMessages _ => cases saves
  | _ => exact aside rfl rfl

theorem after (h : t.Paired raws) {ops : List Operation}
    (saves : ∀ op ∈ ops, op.savesTransaction = false) : (t.after ops).Paired raws := by
  induction ops generalizing t with
  | nil => exact h
  | cons op ops ih =>
      exact ih (h.effect (saves op List.mem_cons_self))
        fun op member => saves op (List.mem_cons_of_mem _ member)

/-- A transaction and its messages are both new, or they are both there. -/
theorem after_writes (h : t.Paired raws)
    (distinct : ∀ raw ∈ raws, ∀ raw' ∈ raws, sha256 raw = sha256 raw' → raw = raw')
    {raw : Bytes} (listed : raw ∈ raws) (height : Height) :
    (t.after (Transaction.ofRaw raw height).writes).Paired raws := by
  generalize made : Transaction.ofRaw raw height = tx
  have txs (hash : String) : (t.after tx.writes).txs.get? hash =
      (t.txs.get? hash).or (if tx.hash = hash then some tx else none) :=
    Table.get?_writeOnce tx t.txs hash
  have messages (key : MessageRow.Key) : (t.after tx.writes).messages.get? key =
      (t.messages.get? key).or (tx.messageTable.get? key) := by
    refine (Table.get?_writeAllOnce tx.messageRows t.messages key).trans ?_
    rw [List.head?_filter]
    rfl
  constructor
  · intro hash stored found
    rw [txs, Option.or_eq_some_iff] at found
    rcases found with found | ⟨_, found⟩
    · exact h.made hash stored found
    · split at found
      · cases found
        exact ⟨raw, listed, height, made.symm⟩
      · cases found
  · intro key
    rw [messages, txs, h.messages]
    by_cases same : tx.hash = key.txHash
    · rw [if_pos same]
      cases found : t.txs.get? key.txHash with
      | none => rfl
      | some stored =>
          -- The stored transaction has the same digest, so it is made of the same raw one.
          rw [Option.some_or, Option.bind_some]
          obtain ⟨raw', listed', height', rfl⟩ := h.made _ stored found
          have hash : tx.hash = (Transaction.ofRaw raw' height').hash :=
            same.trans (Table.get?_eq_some_iff.1 found).2.symm
          apply Transaction.get?_messageTable_or hash
          rw [← made, Transaction.hash_ofRaw, Transaction.hash_ofRaw, txHash_inj] at hash
          rw [← made, distinct raw listed raw' listed' hash]
          exact Transaction.messages_ofRaw raw' height height'
    · rw [if_neg same, Option.or_none, Transaction.get?_messageTable_of_ne same, Option.or_none]

theorem after_flatMap_writes (h : t.Paired raws)
    (distinct : ∀ raw ∈ raws, ∀ raw' ∈ raws, sha256 raw = sha256 raw' → raw = raw')
    {txs : List Transaction}
    (made : ∀ tx ∈ txs, ∃ raw ∈ raws, ∃ height, tx = .ofRaw raw height) :
    (t.after (txs.flatMap Transaction.writes)).Paired raws := by
  induction txs generalizing t with
  | nil => exact h
  | cons tx txs ih =>
      obtain ⟨raw, listed, height, rfl⟩ := made tx List.mem_cons_self
      rw [List.flatMap_cons, Tables.after_append]
      exact ih (h.after_writes distinct listed height)
        fun tx member => made tx (List.mem_cons_of_mem _ member)

theorem after_convey (h : t.Paired raws)
    (distinct : ∀ raw ∈ raws, ∀ raw' ∈ raws, sha256 raw = sha256 raw' → raw = raw')
    {txs : List Transaction}
    (made : ∀ tx ∈ txs, ∃ raw ∈ raws, ∃ height, tx = .ofRaw raw height)
    {ops : List Operation} (convey : Operation.Convey txs ops) : (t.after ops).Paired raws := by
  obtain ⟨before, after, rfl, saves⟩ := convey
  rw [Tables.after_append, Tables.after_append]
  apply Paired.after
  · apply after_flatMap_writes _ distinct made
    exact h.after fun op member => saves op (List.mem_append_left _ member)
  · exact fun op member => saves op (List.mem_append_right _ member)

theorem messagesOf_eq (h : t.Paired raws) {tx : Transaction} (stored : tx ∈ t.txs.rows) :
    t.messagesOf tx.hash = tx.messageRows := by
  have same : t.messages.filter (·.txHash == tx.hash) = tx.messageTable := by
    apply Table.ext_get?
    intro key
    rw [Table.get?_filter, h.messages]
    by_cases hash : tx.hash = key.txHash
    · have found : t.txs.get? key.txHash = some tx := Table.get?_eq_some_iff.2 ⟨stored, hash⟩
      rw [found, Option.bind_some]
      cases said : tx.messageTable.get? key with
      | none => rfl
      | some row =>
          have place : row.key = key := (Table.get?_eq_some_iff.1 said).2
          have fits : row.txHash = tx.hash := (congrArg (·.txHash) place).trans hash.symm
          simp [Option.filter, fits]
    · rw [Transaction.get?_messageTable_of_ne hash, Option.filter_eq_none_iff]
      intro row found
      rw [← h.messages] at found
      have place : row.key = key := (Table.get?_eq_some_iff.1 found).2
      simpa using fun fits => hash (fits.symm.trans (congrArg (·.txHash) place))
  exact congrArg Table.rows same

theorem exists_tx_of_mem (h : t.Paired raws) {row : MessageRow} (stored : row ∈ t.messages.rows) :
    ∃ tx ∈ t.txs.rows, row ∈ tx.messageRows := by
  have found := h.messages row.key
  rw [Table.get?_eq_some_iff.2 ⟨stored, rfl⟩] at found
  obtain ⟨tx, held, said⟩ := Option.bind_eq_some_iff.1 found.symm
  exact ⟨tx, (Table.get?_eq_some_iff.1 held).1, (Table.get?_eq_some_iff.1 said).1⟩

end Paired
end Tables

namespace Surroundings

variable {σ : Type} {o : Surroundings σ} {ix : Indexer} {m : σ} {s : Store}

/-- What a node answers for the transactions of a block is what the block carries. -/
def Decodes (o : Surroundings σ) : Prop :=
  ∀ b m txs, (o.node (.transactions b) m).1 = .ok txs → txs = b.transactions

def rawsAt (o : Surroundings σ) (m : σ) (height : Height) : List Bytes :=
  match (o.node (.block height) m).1 with
  | .ok b => b.txs
  | .error _ => []

/-- The raw transactions that a task comes across: it asks for one block or for none. -/
def rawsFor (o : Surroundings σ) (m : σ) (t : Tables) : Task → List Bytes
  | .index height =>
    if height = 0 ∨ t.blocks.contains height = true then [] else o.rawsAt m height
  | .reindex height => if height = 0 then [] else o.rawsAt m height
  | .transactions height => o.rawsAt m height

def rawsFrom (o : Surroundings σ) (ix : Indexer) (r : Record σ) : List Job → List Bytes
  | [] => []
  | j :: jobs => o.rawsFor r.outside r.store.tables j.task ++ o.rawsFrom ix (o.next ix r j) jobs

def raws (o : Surroundings σ) (ix : Indexer) (m : σ) (jobs : List Job) : List Bytes :=
  o.rawsFrom ix { outside := m } jobs

/-- The attempt leaves the store open, and the only transactions it saves are made of certain raw
ones. Each is saved with its messages. -/
def Sends (o : Surroundings σ) (raws : List Bytes) (p : Attempt Unit) (m : σ) (s : Store) : Prop :=
  ∃ ended m' ops txs, o.run p (m, s) = (ended, m', ⟨s.tables.after ops, false⟩) ∧
    Operation.Convey txs ops ∧ ∀ tx ∈ txs, ∃ raw ∈ raws, ∃ height, tx = .ofRaw raw height

theorem sends_of_run_unchanged {raws : List Bytes} {p : Attempt Unit} {ended : Except Fault Unit}
    {m' : σ} (opened : s.closed = false) (ran : o.run p (m, s) = (ended, m', s)) :
    o.Sends raws p m s := by
  obtain ⟨tables, closed⟩ := s
  cases opened
  exact ⟨_, m', [], [], ran, Operation.convey_nothing nofun, nofun⟩

theorem made_of_raws (decodes : o.Decodes) {height : Height} {b : Block} {txs : List Transaction}
    {m' : σ} (answered : (o.node (.block height) m).1 = .ok b)
    (told : (o.node (.transactions b) m').1 = .ok txs) :
    ∀ tx ∈ txs, ∃ raw ∈ o.rawsAt m height, ∃ height, tx = .ofRaw raw height := by
  intro tx member
  rw [decodes b m' txs told] at member
  obtain ⟨raw, listed, rfl⟩ := List.mem_map.1 member
  refine ⟨raw, ?_, b.height, rfl⟩
  rw [rawsAt, answered]
  exact listed

theorem sends_processGenesis (ix : Indexer) (raws : List Bytes) (worker : Nat) (m : σ)
    (opened : s.closed = false) :
    o.Sends raws { ix with worker }.processGenesis m s := by
  have leaves : ix.registry.usesAtGenesis .close = false :=
    Bool.eq_false_iff.2 fun close => nomatch Registry.servesGenesis close
  obtain ⟨ended, m', ops, ran, uses⟩ :=
    run_of_calls (o := o) { ix with worker }.calls_processGenesis leaves m opened
  refine ⟨ended, m', ops, [], ran, Operation.convey_nothing ?_, nofun⟩
  intro op member
  have serves := Registry.servesGenesis (uses op member)
  cases op <;> first | rfl | cases serves

theorem sends_processBlock (ix : Indexer) (decodes : o.Decodes) (worker : Nat) (height : Height)
    (m : σ) (opened : s.closed = false) :
    o.Sends (o.rawsAt m height) ({ ix with worker }.processBlock height) m s := by
  rcases run_processBlock_opened worker height m opened with
    ⟨f, m', ran⟩ | ⟨data, signatures, ops, m', fetched, _, persists, ran⟩
  · exact sends_of_run_unchanged opened ran
  · obtain ⟨answered, _, ⟨_, told⟩, _⟩ := answered_of_fetch fetched
    exact ⟨_, m', ops, data.txs, ran, persists.convey, made_of_raws decodes answered told⟩

theorem sends_process (ix : Indexer) (decodes : o.Decodes) (worker : Nat) (height : Height)
    (m : σ) (opened : s.closed = false) :
    o.Sends (if height = 0 then [] else o.rawsAt m height) ({ ix with worker }.process height)
      m s := by
  unfold Indexer.process
  split
  · exact sends_processGenesis ix [] worker m opened
  · exact sends_processBlock ix decodes worker height m opened

theorem sends_processIfMissing (ix : Indexer) (decodes : o.Decodes) (worker : Nat)
    (height : Height) (m : σ) (opened : s.closed = false) :
    o.Sends (o.rawsFor m s.tables (.index height)) ({ ix with worker }.processIfMissing height)
      m s := by
  have ran := run_processIfMissing (o := o) { ix with worker } height m opened
  by_cases spared : height ≠ 0 ∧ s.tables.blocks.contains height = true
  · rw [if_pos spared] at ran
    exact sends_of_run_unchanged opened ran
  · rw [if_neg spared] at ran
    have asked : o.rawsFor m s.tables (.index height) =
        if height = 0 then [] else o.rawsAt m height := by
      unfold rawsFor
      grind
    unfold Sends
    rw [ran, asked]
    exact sends_process ix decodes worker height m opened

theorem run_saveTransactions (height : Height) (txs : List Transaction) (m : σ)
    (opened : s.closed = false) :
    ∃ m', o.run (Indexer.saveTransactions height txs) (m, s) =
      (.ok (), m', ⟨s.tables.after (txs.flatMap Transaction.writes), false⟩) := by
  have agreed : ∀ later, ([] : History) <+: later → ∀ op ∈ txs.flatMap Transaction.writes,
      Contract.served.calls later (.perform op) := by
    intro later _ op member
    apply Contract.served_calls
    rintro rfl
    obtain ⟨tx, _, written⟩ := List.mem_flatMap.1 member
    simp [Transaction.writes] at written
  obtain ⟨ended, m', later, ran, held⟩ := run_served (o := o)
    (Indexer.keeps_saveTransactions agreed Contract.served_logs) m opened
  cases ended with
  | error f => exact (Contract.served_not_refuses held).elim
  | ok value =>
      have performed : History.performed later = txs.flatMap Transaction.writes := held
      refine ⟨m', ran.trans ?_⟩
      rw [performed]

theorem sends_processTransactions (decodes : o.Decodes) (height : Height) (m : σ)
    (opened : s.closed = false) :
    o.Sends (o.rawsAt m height) (Indexer.processTransactions height) m s := by
  have asksBlock : o.Asks (Indexer.fetchBlock height) (.mk (o.node (.block height))) :=
    asks_within (asks_ask _)
  rcases asksBlock.run_bind (fun b => Indexer.fetchTransactions b >>=
    Indexer.saveTransactions height) m s with ⟨f, ran⟩ | ⟨b, answered, ran⟩
  · exact sends_of_run_unchanged opened ran
  rcases (asks_fetchTransactions b).run_bind (Indexer.saveTransactions height)
    (o.node (.block height) m).2 s with ⟨f, failed⟩ | ⟨txs, told, fetched⟩
  · exact sends_of_run_unchanged opened (ran.trans failed)
  obtain ⟨m', saved⟩ := run_saveTransactions (o := o) height txs _ opened
  exact ⟨_, m', _, txs, (ran.trans fetched).trans saved, ⟨[], [], by simp, nofun⟩,
    made_of_raws decodes answered told⟩

theorem sends_attempt (ix : Indexer) (decodes : o.Decodes) (j : Job) (m : σ)
    (opened : s.closed = false) :
    o.Sends (o.rawsFor m s.tables j.task) (j.attempt ix) m s := by
  obtain ⟨worker, task⟩ := j
  cases task with
  | index height => exact sends_processIfMissing ix decodes worker height m opened
  | reindex height => exact sends_process ix decodes worker height m opened
  | transactions height => exact sends_processTransactions decodes height m opened

theorem paired_foldl (decodes : o.Decodes) {jobs : List Job} {r : Record σ} {past : List Bytes}
    (opened : r.store.closed = false) (paired : r.store.tables.Paired past)
    (distinct : ∀ raw ∈ past ++ o.rawsFrom ix r jobs, ∀ raw' ∈ past ++ o.rawsFrom ix r jobs,
      sha256 raw = sha256 raw' → raw = raw') :
    (jobs.foldl (o.next ix) r).store.tables.Paired (past ++ o.rawsFrom ix r jobs) := by
  induction jobs generalizing r past with
  | nil => simpa [rawsFrom] using paired
  | cons j jobs ih =>
      obtain ⟨ended, m', ops, txs, ran, convey, made⟩ :=
        sends_attempt ix decodes j r.outside opened
      have stepped : (o.next ix r j).store = ⟨r.store.tables.after ops, false⟩ := by
        unfold next
        rw [ran]
      unfold rawsFrom at distinct ⊢
      rw [← List.append_assoc] at distinct ⊢
      apply ih
      · rw [stepped]
      · rw [stepped]
        apply (paired.mono (List.subset_append_left _ _)).after_convey
        · intro raw listed raw' listed'
          exact distinct raw (List.mem_append_left _ listed) raw' (List.mem_append_left _ listed')
        · intro tx member
          obtain ⟨raw, listed, height, rfl⟩ := made tx member
          exact ⟨raw, List.mem_append_right _ listed, height, rfl⟩
        · exact convey
      · exact distinct

end Surroundings

namespace Indexer

variable {σ : Type}

/-- Transactions and messages stay together. Jobs are done in turn, with any modules, by any node
that answers for the transactions of a block what the block carries, and no two raw transactions
of the run have one digest. Then after any number of jobs the messages of a stored transaction are
its own, all of them, in order and at its height, and every stored message is one of a stored
transaction. A raw transaction may occur as often as it likes. -/
theorem messages_match_transactions (ix : Indexer) (o : Surroundings σ) (decodes : o.Decodes)
    (m : σ) (jobs : List Job)
    (distinct : ∀ raw ∈ o.raws ix m jobs, ∀ raw' ∈ o.raws ix m jobs,
      sha256 raw = sha256 raw' → raw = raw') :
    let t := (o.inTurn ix m jobs).store.tables
    (∀ tx ∈ t.txs.rows, t.messagesOf tx.hash = tx.messageRows) ∧
      ∀ row ∈ t.messages.rows, ∃ tx ∈ t.txs.rows, row ∈ tx.messageRows := by
  intro t
  have paired : t.Paired ([] ++ o.raws ix m jobs) :=
    Surroundings.paired_foldl decodes rfl Tables.Paired.empty distinct
  exact ⟨fun _ stored => paired.messagesOf_eq stored, fun _ stored =>
    paired.exists_tx_of_mem stored⟩

end Indexer

def World.echo : Bytes :=
  Utf8.encode "\x7b\"msg\":[\x7b\"type\":\"a\"\x7d,\x7b\"type\":\"b\"\x7d]\x7d"

/-- The quiet chain, but that every block carries one and the same raw transaction, twice. -/
def World.echoing : World where
  node
    | .block height => .ok
      { height, hash := "", chainId := "quiet", proposerAddress := [1]
        timestamp := "2024-01-01T00:00:00Z", txs := [echo, echo]
        lastCommit := ⟨height - 1, [⟨[1], "2024-01-01T00:00:00Z", some [7]⟩]⟩ }
    | query => World.quiet.node query
  files := World.quiet.files

theorem World.echoing_decodes : World.echoing.still.Decodes := by
  intro b m txs told
  cases told
  rfl

namespace Indexer

def echoes : List Job := [⟨0, .index 2⟩, ⟨0, .index 5⟩, ⟨1, .transactions 6⟩]

/-- The row from height two is pruned at height five, and there is a new one after that. -/
theorem messages_match_transactions_echoing :
    ∃ t : Tables, t = (World.echoing.still.inTurn brief () echoes).store.tables ∧
      World.echoing.still.Decodes ∧
      (World.echoing.still.raws brief () echoes).length = 6 ∧
      (∀ raw ∈ World.echoing.still.raws brief () echoes,
        ∀ raw' ∈ World.echoing.still.raws brief () echoes,
        sha256 raw = sha256 raw' → raw = raw') ∧
      t.txs.rows.map (fun tx => (tx.height, tx.messages.length)) = [(6, 2)] ∧
      (∀ tx ∈ t.txs.rows, t.messagesOf tx.hash = tx.messageRows) ∧
      ∀ row ∈ t.messages.rows, ∃ tx ∈ t.txs.rows, row ∈ tx.messageRows := by
  have raws : World.echoing.still.raws brief () echoes = List.replicate 6 World.echo := by
    decide +kernel
  have distinct : ∀ raw ∈ World.echoing.still.raws brief () echoes,
      ∀ raw' ∈ World.echoing.still.raws brief () echoes,
      sha256 raw = sha256 raw' → raw = raw' := by
    rw [raws]
    intro raw listed raw' listed' _
    rw [List.eq_of_mem_replicate listed, List.eq_of_mem_replicate listed']
  refine ⟨_, rfl, World.echoing_decodes, ?_, distinct, by decide +kernel, ?_⟩
  · rw [raws]
    rfl
  · exact messages_match_transactions brief _ World.echoing_decodes () echoes distinct

end Indexer
end ChainIndexer
