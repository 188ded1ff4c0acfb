import ChainIndexer.Proofs.FirstSeen
import ChainIndexer.Proofs.InTurn
import ChainIndexer.Proofs.Isolation
import ChainIndexer.Proofs.Offered

/-! Balances. The bank asks for the balance of each account that a block mentions, and stores what
it is told in one write, after the last answer. So a balance that is not told leaves all of them as
they were. -/
namespace ChainIndexer

/-- The same node, that keeps a list of the questions it is asked. -/
def World.recording (w : World) : Surroundings (List Query) where
  node q := fun asked => (w.node q, asked ++ [q])
  files path := fun asked => (w.files path, asked)

def World.questions {α : Type} (w : World) (p : Attempt α) (s : Store) : List Query :=
  (w.recording.run p ([], s)).2.1

/-- The list makes no difference to what an attempt comes to and leaves behind. -/
theorem World.run_recording {α : Type} (w : World) (p : Attempt α) (asked : List Query)
    (s : Store) :
    ∃ asked', w.recording.run p (asked, s) = (w.outcome p s, asked', w.complete p s) := by
  unfold Surroundings.run outcome complete
  generalize p.run = program
  induction program generalizing asked s with
  | done value => exact ⟨asked, rfl⟩
  | call c next ih =>
      cases c with
      | ask q => exact ih (w.node q) (asked ++ [q]) s
      | load path => exact ih (w.files path) asked s
      | log line => exact ih () asked s
      | perform op => exact ih (s.perform op).1 asked (s.perform op).2

theorem World.eq_of_recorded {α : Type} {w : World} {p : Attempt α} {s s' : Store}
    {e : Except Fault α} {asked : List Query}
    (ran : w.recording.run p ([], s) = (e, asked, s')) :
    w.outcome p s = e ∧ w.questions p s = asked ∧ w.complete p s = s' := by
  obtain ⟨_, recorded⟩ := w.run_recording p [] s
  have same := recorded.symm.trans ran
  exact ⟨congrArg (·.1) same, congrArg (·.2.1) ran, congrArg (·.2.2) same⟩

/-- The accounts of a block as often as they are mentioned: over its transactions, their messages
and the accounts of each message. -/
def BlockData.mentioned (data : BlockData) : List String :=
  data.txs.flatMap fun tx => tx.messages.flatMap fun m => m.value.involvedAccounts

theorem Transaction.flatMap_messageRows (tx : Transaction) :
    tx.messageRows.flatMap (·.involvedAccounts) =
      tx.messages.flatMap fun m => m.value.involvedAccounts := by
  unfold messageRows
  generalize 0 = first
  induction tx.messages generalizing first with
  | nil => rfl
  | cons m messages ih => exact congrArg (m.value.involvedAccounts ++ ·) (ih (first + 1))

theorem Bank.firstOrder_accounts (data : BlockData) :
    FirstOrder data.mentioned (Bank.accounts data.txs) := by
  have same : data.mentioned = data.txs.flatMap fun tx =>
      tx.messageRows.flatMap (·.involvedAccounts) :=
    congrArg (data.txs.flatMap ·) (funext fun tx => tx.flatMap_messageRows.symm)
  rw [same]
  exact firstOrder_firstSeen _

namespace Bank

open Attempt

variable {w : World} {height : Height} {asked : List Query} {s : Store} {listed : List String}

theorem run_ask (q : Query) :
    w.recording.run (ask q) (asked, s) = (w.node q, asked ++ [q], s) := rfl

theorem run_perform (opened : s.closed = false) {op : Operation} (leaves : op ≠ .close) :
    w.recording.run (perform op) (asked, s) =
      (.ok (op.answer s.tables), asked, { tables := op.effect s.tables }) := by
  change ((s.perform op).1, asked, (s.perform op).2) = _
  rw [Store.perform_opened opened leaves]

theorem run_balance (account : String) :
    w.recording.run (balance height account) (asked, s) =
      ((w.node (.balance account height)).map fun coins => ⟨account, coins, height⟩,
        asked ++ [.balance account height], s) := by
  unfold balance
  rw [Surroundings.run_bind, run_ask]
  cases w.node (.balance account height) <;> rfl

theorem run_balances_store (height : Height) (asked : List Query) (listed : List String) :
    ∃ e asked', w.recording.run (listed.mapM (balance height)) (asked, s) = (e, asked', s) := by
  induction listed generalizing asked with
  | nil => exact ⟨_, _, rfl⟩
  | cons account listed ih =>
      rw [List.mapM_cons, Surroundings.run_bind, run_balance]
      cases w.node (.balance account height) with
      | error f => exact ⟨_, _, rfl⟩
      | ok coins =>
          obtain ⟨e, asked', rest⟩ := ih (asked ++ [.balance account height])
          change ∃ e asked', w.recording.run (listed.mapM (balance height) >>= _) _ = _
          rw [Surroundings.run_bind, rest]
          cases e <;> exact ⟨_, _, rfl⟩

theorem run_balances_answered {coins : String → List Coin}
    (answered : ∀ account ∈ listed, w.node (.balance account height) = .ok (coins account)) :
    w.recording.run (listed.mapM (balance height)) (asked, s) =
      (.ok (listed.map fun account => ⟨account, coins account, height⟩),
        asked ++ listed.map (.balance · height), s) := by
  induction listed generalizing asked with
  | nil => exact congrArg (fun asked => (_, asked, s)) (List.append_nil asked).symm
  | cons account listed ih =>
      have rest (asked : List Query) :
          w.recording.run (listed.mapM (balance height)) (asked, s) = _ :=
        ih fun account' later => answered account' (List.mem_cons_of_mem _ later)
      rw [List.mapM_cons, Surroundings.run_bind, run_balance, answered account List.mem_cons_self]
      change w.recording.run (listed.mapM (balance height) >>= _) _ = _
      rw [Surroundings.run_bind, rest, List.map_cons, List.append_assoc]
      rfl

theorem run_balances_failed {before after : List String} {account : String} {f : Fault}
    {coins : String → List Coin}
    (answered : ∀ account ∈ before, w.node (.balance account height) = .ok (coins account))
    (failed : w.node (.balance account height) = .error f) :
    w.recording.run ((before ++ account :: after).mapM (balance height)) (asked, s) =
      (.error f, asked ++ (before ++ [account]).map (.balance · height), s) := by
  rw [List.mapM_append, Surroundings.run_bind, run_balances_answered answered]
  change w.recording.run ((account :: after).mapM (balance height) >>= _) _ = _
  rw [Surroundings.run_bind, List.mapM_cons, Surroundings.run_bind, run_balance, failed,
    List.map_append, ← List.append_assoc]
  rfl

def supplied (s : Store) (coins : List Coin) (height : Height) : Tables :=
  (Operation.saveSupply ⟨coins, height⟩).effect s.tables

variable {data : BlockData} {coins : List Coin}

theorem run_unsupplied {f : Fault} (silent : w.node (.supply data.height) = .error f) :
    w.recording.run (handleBlock data) ([], s) =
      (.error (f.within "failed to get supply"), [.supply data.height], s) := by
  unfold handleBlock
  rw [Surroundings.run_bind, Surroundings.run_within, run_ask, silent]
  rfl

theorem run_supplied (opened : s.closed = false)
    (told : w.node (.supply data.height) = .ok coins) :
    w.recording.run (handleBlock data) ([], s) =
      w.recording.run
        ((accounts data.txs).mapM (balance data.height) >>= fun rows =>
          perform (.saveBalances rows))
        ([.supply data.height], { tables := supplied s coins data.height }) := by
  unfold handleBlock
  rw [Surroundings.run_bind, Surroundings.run_within, run_ask, told]
  change w.recording.run (perform (.saveSupply ⟨coins, data.height⟩) >>= _)
    ([.supply data.height], s) = _
  have saves : Operation.saveSupply ⟨coins, data.height⟩ ≠ .close := nofun
  rw [Surroundings.run_bind, run_perform opened saves]
  rfl

theorem run_all_told (opened : s.closed = false)
    (told : w.node (.supply data.height) = .ok coins) {held : String → List Coin}
    (answered : ∀ a ∈ accounts data.txs, w.node (.balance a data.height) = .ok (held a)) :
    w.recording.run (handleBlock data) ([], s) =
      (.ok (), .supply data.height :: (accounts data.txs).map (.balance · data.height),
        { tables := (Operation.saveBalances
            ((accounts data.txs).map fun a => ⟨a, held a, data.height⟩)).effect
              (supplied s coins data.height) }) := by
  rw [run_supplied opened told, Surroundings.run_bind, run_balances_answered answered]
  exact run_perform rfl nofun

/-- The store with its supply, and nothing else, is what a failure leaves behind. -/
theorem run_untold (opened : s.closed = false)
    (supply : w.node (.supply data.height) = .ok coins) {told untold : List String} {a : String}
    {f : Fault} (split : accounts data.txs = told ++ a :: untold)
    (answered : ∀ b ∈ told, (w.node (.balance b data.height)).isOk)
    (failed : w.node (.balance a data.height) = .error f) :
    w.recording.run (handleBlock data) ([], s) =
      (.error f, .supply data.height :: (told ++ [a]).map (.balance · data.height),
        { tables := supplied s coins data.height }) := by
  have held : ∀ b ∈ told, w.node (.balance b data.height) =
      .ok ((w.node (.balance b data.height)).toOption.getD []) := by
    intro b earlier
    obtain ⟨coins, answer⟩ := exists_eq_ok (answered b earlier)
    rw [answer]
    rfl
  rw [run_supplied opened supply, Surroundings.run_bind, split, run_balances_failed held failed]
  rfl

theorem supply_complete (opened : s.closed = false)
    (told : w.node (.supply data.height) = .ok coins) :
    (w.complete (handleBlock data) s).tables.supply =
      latest (·.height) ⟨coins, data.height⟩ s.tables.supply := by
  obtain ⟨e, asked, balances⟩ := run_balances_store (w := w)
    (s := { tables := supplied s coins data.height }) data.height [.supply data.height]
    (accounts data.txs)
  have ran := run_supplied opened told
  rw [Surroundings.run_bind, balances] at ran
  cases e with
  | error f =>
      rw [(World.eq_of_recorded ran).2.2]
      rfl
  | ok rows =>
      have ran := ran.trans (run_perform rfl nofun)
      rw [(World.eq_of_recorded ran).2.2]
      rfl

/-- Either the balances of all accounts that a block mentions are refreshed, or none is. If the
node does not tell the supply, the bank fails and has changed nothing. Otherwise it asks for the
balances at the height of the block, each account once, first mentioned first, until one is not
told. If all are told, they are all stored, and if one is not, the bank fails as the node does and
the balances are as they were. No other tables are changed than those of supply and balances. -/
theorem balances_all_or_none (opened : s.closed = false) (w : World) (data : BlockData) :
    (∀ f, w.node (.supply data.height) = .error f →
      w.outcome (handleBlock data) s = .error (f.within "failed to get supply") ∧
        w.questions (handleBlock data) s = [.supply data.height] ∧
        w.complete (handleBlock data) s = s) ∧
    (∀ coins, w.node (.supply data.height) = .ok coins →
      (w.complete (handleBlock data) s).tables.supply =
          latest (·.height) ⟨coins, data.height⟩ s.tables.supply ∧
        FirstOrder data.mentioned (accounts data.txs) ∧
        (∀ held : String → List Coin,
          (∀ a ∈ accounts data.txs, w.node (.balance a data.height) = .ok (held a)) →
          w.outcome (handleBlock data) s = .ok () ∧
            w.questions (handleBlock data) s =
              .supply data.height :: (accounts data.txs).map (.balance · data.height) ∧
            ∀ a, (w.complete (handleBlock data) s).tables.balances.get? a =
              if a ∈ accounts data.txs then
                latest (·.height) ⟨a, held a, data.height⟩ (s.tables.balances.get? a)
              else s.tables.balances.get? a) ∧
        ∀ told a untold f, accounts data.txs = told ++ a :: untold →
          (∀ b ∈ told, (w.node (.balance b data.height)).isOk) →
          w.node (.balance a data.height) = .error f →
          w.outcome (handleBlock data) s = .error f ∧
            w.questions (handleBlock data) s =
              .supply data.height :: (told ++ [a]).map (.balance · data.height) ∧
            (w.complete (handleBlock data) s).tables.balances = s.tables.balances) ∧
    ∀ p, p ≠ .supply → p ≠ .balances →
      (w.complete (handleBlock data) s).tables.part p = s.tables.part p := by
  refine ⟨?_, ?_, ?_⟩
  · intro f silent
    exact World.eq_of_recorded (run_unsupplied silent)
  · intro coins told
    have first := firstOrder_accounts data
    refine ⟨supply_complete opened told, first, ?_, ?_⟩
    · intro held answered
      obtain ⟨came, asked, left⟩ := World.eq_of_recorded (run_all_told opened told answered)
      refine ⟨came, asked, fun a => ?_⟩
      rw [left]
      exact s.tables.balances.get?_writeAllLatest_map first.nodup (fun _ => rfl) a
    · intro before a after f split answered failed
      obtain ⟨came, asked, left⟩ :=
        World.eq_of_recorded (run_untold opened told split answered failed)
      exact ⟨came, asked, congrArg (·.tables.balances) left⟩
  · intro p supply balances
    have foreign : Module.bank.owns p = false := by
      cases p <;> first | rfl | contradiction
    exact Module.part_handleBlock foreign w s

/-- The quiet chain, but that some accounts have a coin and the balances of others are not told. -/
def purses (told : List String) : World where
  node
    | .balance a _ =>
      if a ∈ told then .ok [⟨"coin", "1"⟩] else .error (.because .nodeFault "balance unavailable")
    | query => World.quiet.node query
  files := World.quiet.files

def payment (payer payee : String) : Transaction where
  hash := payer ++ payee
  height := 3
  fee := {}
  memo := ""
  messages := [⟨"send", .object [("from_address", .text payer), ("to_address", .text payee)]⟩]
  signatures := []
  decoded := true

def payments : BlockData where
  block :=
    { height := 3, hash := "", chainId := "quiet", proposerAddress := [1]
      timestamp := "2024-01-01T00:00:09Z", txs := [], lastCommit := ⟨2, []⟩ }
  validators := ⟨3, []⟩
  txs := [payment "carol" "alice", payment "alice" "bob"]

def aliceLater : Store := Store.new.run [.saveBalances [⟨"alice", [], 9⟩]]

/-- With all three balances, those of carol and bob are stored. Without alice's, none is. -/
theorem balances_all_or_none_payments :
    aliceLater.closed = false ∧ accounts payments.txs = ["carol", "alice", "bob"] ∧
      (purses ["carol", "alice", "bob"]).outcome (handleBlock payments) aliceLater = .ok () ∧
      ["carol", "alice", "bob"].map ((purses ["carol", "alice", "bob"]).complete
          (handleBlock payments) aliceLater).tables.balances.get? =
        [some ⟨"carol", [⟨"coin", "1"⟩], 3⟩, some ⟨"alice", [], 9⟩,
          some ⟨"bob", [⟨"coin", "1"⟩], 3⟩] ∧
      (purses ["carol", "bob"]).outcome (handleBlock payments) aliceLater =
        .error (.because .nodeFault "balance unavailable") ∧
      (purses ["carol", "bob"]).questions (handleBlock payments) aliceLater =
        [.supply 3, .balance "carol" 3, .balance "alice" 3] ∧
      ((purses ["carol", "bob"]).complete (handleBlock payments) aliceLater).tables.balances =
        aliceLater.tables.balances := by
  have opened : aliceLater.closed = false := rfl
  have listed : accounts payments.txs = ["carol", "alice", "bob"] := by decide +kernel
  obtain ⟨_, supplied, _⟩ :=
    balances_all_or_none opened (purses ["carol", "alice", "bob"]) payments
  obtain ⟨_, supplied', _⟩ := balances_all_or_none opened (purses ["carol", "bob"]) payments
  obtain ⟨_, _, all, _⟩ := supplied [] rfl
  obtain ⟨_, _, _, none⟩ := supplied' [] rfl
  obtain ⟨came, _, rows⟩ := all (fun _ => [⟨"coin", "1"⟩]) fun a member => by
    rw [listed] at member
    exact if_pos member
  obtain ⟨failed, asked, kept⟩ := none ["carol"] "alice" ["bob"] _ listed (by decide) rfl
  refine ⟨opened, listed, came, ?_, failed, asked, kept⟩
  simp only [List.map, rows, listed]
  decide +kernel

end Bank

end ChainIndexer
