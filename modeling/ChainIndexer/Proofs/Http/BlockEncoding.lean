import ChainIndexer.Http.Document
import ChainIndexer.Proofs.Base64
import ChainIndexer.Proofs.Correlation
import ChainIndexer.Proofs.Steps

/-! Blocks as a node writes them. A document may write a block in many ways: in either case, with
null for what is empty, and with entries of absent validators anywhere in the commit. However it is
written, the block is read back. A document with bytes that cannot be read is malformed. -/
namespace ChainIndexer

open ConsensusAddress (foldCase)

namespace Text

theorem toNat_toUpper (c : Char) :
    c.toUpper.toNat = if 97 ≤ c.toNat ∧ c.toNat ≤ 122 then c.toNat - 32 else c.toNat := by
  unfold Char.toUpper
  split
  · rename_i lower
    have range : 97 ≤ c.toNat ∧ c.toNat ≤ 122 := lower
    rw [if_pos range]
    change (c.val + ('A'.val - 'a'.val)).toNat = c.toNat - 32
    rw [UInt32.toNat_add]
    change (c.toNat + 4294967264) % 4294967296 = c.toNat - 32
    omega
  · rename_i other
    exact (if_neg other).symm

theorem uppercaseChar_of_toLower_eq {c d : Char} (plain : d.toNat < 128 ∧ d.isLower = false)
    (same : c.toLower = d.toLower) : uppercaseChar c = [d] := by
  have lower : d.isLower = decide (97 ≤ d.toNat ∧ d.toNat ≤ 122) := by
    rw [Bool.decide_and]
    rfl
  rw [lower, decide_eq_false_iff_not] at plain
  rw [← Char.toNat_inj, toNat_toLower, toNat_toLower] at same
  have upper : c.toUpper = d := by
    rw [← Char.toNat_inj, toNat_toUpper]
    grind
  rw [uppercaseChar, if_pos (by grind), upper]

theorem flatMap_uppercaseChar {cs upper : List Char}
    (plain : ∀ c ∈ upper, c.toNat < 128 ∧ c.isLower = false)
    (same : foldCase cs = foldCase upper) : cs.flatMap uppercaseChar = upper := by
  induction cs generalizing upper with
  | nil => exact (List.map_eq_nil_iff.1 same.symm).symm
  | cons c cs ih =>
      cases upper with
      | nil => cases same
      | cons d upper =>
          obtain ⟨first, rest⟩ := List.cons.inj same
          obtain ⟨plain, others⟩ := List.forall_mem_cons.1 plain
          rw [List.flatMap_cons, ih others rest, uppercaseChar_of_toLower_eq plain first]
          rfl

/-- Text of ASCII without lower case letters is the upper case form of what differs from it in case
only. -/
theorem uppercase_eq_of_foldCase {s upper : String}
    (plain : ∀ c ∈ upper.toList, c.toNat < 128 ∧ c.isLower = false)
    (same : foldCase s.toList = foldCase upper.toList) : uppercase s = upper := by
  rw [uppercase, flatMap_uppercaseChar plain same, String.ofList_toList]

end Text

namespace Hex

/-- Text with two digits for each byte, of either case. -/
def Writes (s : String) (bs : Bytes) : Prop := foldCase s.toList = foldCase (digits upperDigit bs)

instance (s : String) (bs : Bytes) : Decidable (Writes s bs) :=
  inferInstanceAs (Decidable (foldCase s.toList = foldCase (digits upperDigit bs)))

theorem decode?_eq_some_iff {s : String} {bs : Bytes} : decode? s = some bs ↔ Writes s bs :=
  foldCase_digits_iff.symm.trans eq_comm

theorem writes_encodeUpper (bs : Bytes) : Writes (encodeUpper bs) bs :=
  decode?_eq_some_iff.1 (decode?_encodeUpper bs)

theorem Writes.ne_empty {s : String} {bs : Bytes} (h : Writes s bs) (some : bs ≠ []) : s ≠ "" := by
  rintro rfl
  cases bs with
  | nil => exact some rfl
  | cons b bs => cases h

end Hex

namespace Http

theorem readHex_eq_ok_iff {s : String} {bs : Bytes} : readHex s = .ok bs ↔ Hex.Writes s bs := by
  rw [← Hex.decode?_eq_some_iff, readHex]
  cases Hex.decode? s <;> simp

theorem readBase64_eq_ok_iff {s : String} {bs : Bytes} :
    readBase64 s = .ok bs ↔ s = Base64.encode bs := by
  rw [← Base64.decode?_eq_some_iff, readBase64]
  cases Base64.decode? s <;> simp

def FailsAsMalformed {α : Type} (e : Except Fault α) : Prop :=
  ∀ f, e = .error f → f.kind = .malformedData

section

variable {α β : Type} {e : Except Fault α} {f : α → Except Fault β}

theorem failsAsMalformed_ok (a : α) : FailsAsMalformed (.ok a) := nofun

theorem failsAsMalformed_readHex (s : String) : FailsAsMalformed (readHex s) := by
  intro f failed
  unfold readHex at failed
  split at failed
  · cases failed
  · cases failed
    rfl

theorem failsAsMalformed_readBase64 (s : String) : FailsAsMalformed (readBase64 s) := by
  intro f failed
  unfold readBase64 at failed
  split at failed
  · cases failed
  · cases failed
    rfl

theorem FailsAsMalformed.bind (first : FailsAsMalformed e) (rest : ∀ a, FailsAsMalformed (f a)) :
    FailsAsMalformed (e >>= f) := by
  cases e with
  | ok a => exact rest a
  | error g => exact fun _ failed => first _ (by cases failed; rfl)

theorem failsAsMalformed_mapM {items : List α} (each : ∀ item, FailsAsMalformed (f item)) :
    FailsAsMalformed (items.mapM f) := by
  intro g failed
  obtain ⟨item, _, failed⟩ := exists_mem_of_mapM_eq_error failed
  exact each item g failed

end

namespace CommitEntryDocument

variable {doc : CommitEntryDocument} {entry : CommitEntry}

/-- The document writes the entry: its address in hexadecimal, and the signature, if there is one,
in base 64. -/
structure Writes (doc : CommitEntryDocument) (entry : CommitEntry) : Prop where
  validatorAddress : Hex.Writes doc.validatorAddress entry.validatorAddress
  timestamp : doc.timestamp = entry.timestamp
  signature : doc.signature = entry.signature.map Base64.encode

theorem mapM_readBase64_eq_ok_iff {s : Option String} {bs : Option Bytes} :
    s.mapM readBase64 = .ok bs ↔ s = bs.map Base64.encode := by
  cases s with
  | none =>
      cases bs with
      | none => exact ⟨fun _ => rfl, fun _ => rfl⟩
      | some bs => exact ⟨nofun, nofun⟩
  | some text =>
      change some <$> readBase64 text = .ok bs ↔ _
      cases bs with
      | none => cases readBase64 text <;> exact ⟨nofun, nofun⟩
      | some bs =>
          rw [Option.map_some, Option.some.injEq, ← readBase64_eq_ok_iff]
          cases readBase64 text with
          | error f => exact ⟨nofun, nofun⟩
          | ok read => exact ⟨fun same => by cases same; rfl, fun same => by cases same; rfl⟩

theorem toEntry_eq_ok_iff : doc.toEntry = .ok entry ↔ doc.Writes entry := by
  obtain ⟨address, timestamp, signature⟩ := entry
  change (doc.signature.mapM readBase64 >>= fun signature =>
    readHex doc.validatorAddress >>= fun address =>
      .ok (CommitEntry.mk address doc.timestamp signature)) = .ok _ ↔ _
  simp only [bind_eq_ok_iff, mapM_readBase64_eq_ok_iff, readHex_eq_ok_iff]
  constructor
  · rintro ⟨_, signed, _, addressed, ⟨⟩⟩
    exact ⟨addressed, rfl, signed⟩
  · rintro ⟨addressed, rfl, signed⟩
    exact ⟨signature, signed, address, addressed, rfl⟩

theorem exists_toEntry_eq_ok_iff : (∃ entry, doc.toEntry = .ok entry) ↔
    (∃ bs, Hex.Writes doc.validatorAddress bs) ∧
      ∀ s, doc.signature = some s → ∃ bs, s = Base64.encode bs := by
  simp only [toEntry_eq_ok_iff]
  constructor
  · rintro ⟨entry, addressed, _, signed⟩
    refine ⟨⟨_, addressed⟩, fun s given => ?_⟩
    obtain ⟨bs, _, written⟩ := Option.map_eq_some_iff.1 (signed.symm.trans given)
    exact ⟨bs, written.symm⟩
  · rintro ⟨⟨address, addressed⟩, signed⟩
    cases given : doc.signature with
    | none => exact ⟨⟨address, doc.timestamp, none⟩, addressed, rfl, given⟩
    | some s =>
        obtain ⟨bs, rfl⟩ := signed s given
        exact ⟨⟨address, doc.timestamp, some bs⟩, addressed, rfl, given⟩

theorem failsAsMalformed_toEntry (doc : CommitEntryDocument) : FailsAsMalformed doc.toEntry := by
  refine FailsAsMalformed.bind ?_ fun _ => ?_
  · cases doc.signature with
    | none => exact failsAsMalformed_ok _
    | some s => exact (failsAsMalformed_readBase64 s).bind fun _ => failsAsMalformed_ok _
  · exact (failsAsMalformed_readHex _).bind fun _ => failsAsMalformed_ok _

end CommitEntryDocument

/-- The documents write the entries in order. Between them there may be documents without address,
for absent validators, whatever else these hold. -/
inductive WriteEntries : List CommitEntryDocument → List CommitEntry → Prop
  | none : WriteEntries [] []
  | absent {doc : CommitEntryDocument} {docs : List CommitEntryDocument}
      {entries : List CommitEntry} (nobody : doc.validatorAddress = "")
      (rest : WriteEntries docs entries) : WriteEntries (doc :: docs) entries
  | present {doc : CommitEntryDocument} {docs : List CommitEntryDocument} {entry : CommitEntry}
      {entries : List CommitEntry} (first : doc.Writes entry) (rest : WriteEntries docs entries) :
      WriteEntries (doc :: docs) (entry :: entries)

theorem WriteEntries.mapM_toEntry {docs : List CommitEntryDocument} {entries : List CommitEntry}
    (h : WriteEntries docs entries) (signers : ∀ entry ∈ entries, entry.validatorAddress ≠ []) :
    (docs.filter (·.validatorAddress != "")).mapM CommitEntryDocument.toEntry = .ok entries := by
  induction h with
  | none => rfl
  | absent nobody rest ih =>
      rw [List.filter_cons_of_neg (by simp [nobody])]
      exact ih signers
  | present first rest ih =>
      obtain ⟨signer, signers⟩ := List.forall_mem_cons.1 signers
      have kept := first.validatorAddress.ne_empty signer
      rw [List.filter_cons_of_pos (by simpa using kept), List.mapM_cons,
        CommitEntryDocument.toEntry_eq_ok_iff.2 first, ih signers]
      rfl

namespace BlockDocument

variable {doc : BlockDocument} {b : Block}

def entries (doc : BlockDocument) : List CommitEntryDocument :=
  match doc.content.lastCommit with
  | some commit => commit.signatures
  | none => []

/-- The commit in a block. A block without one has a commit of height zero without entries. -/
def commit (doc : BlockDocument) : Except Fault Commit :=
  match doc.content.lastCommit with
  | some commit => commit.toCommit
  | none => .ok { height := 0, entries := [] }

/-- The document writes the block: its hash in either case, its transactions in base 64 or null for
none, and its commit with entries of absent validators in between or null for an empty one. -/
structure Writes (doc : BlockDocument) (b : Block) : Prop where
  hash : foldCase doc.hash.toList = foldCase b.hash.toList
  chainId : doc.content.header.chainId = b.chainId
  height : doc.content.header.height = b.height
  timestamp : doc.content.header.time = b.timestamp
  proposerAddress : Hex.Writes doc.content.header.proposerAddress b.proposerAddress
  txs : doc.content.txs.getD [] = b.txs.map Base64.encode
  height_lastCommit : (doc.content.lastCommit.elim 0 (·.height)) = b.lastCommit.height
  entries : WriteEntries doc.entries b.lastCommit.entries

theorem toBlock_eq (doc : BlockDocument) : doc.toBlock = (do
    let txs ← (doc.content.txs.getD []).mapM readBase64
    let lastCommit ← doc.commit
    let proposerAddress ← readHex doc.content.header.proposerAddress
    return { height := doc.content.header.height
             hash := Text.uppercase doc.hash
             chainId := doc.content.header.chainId
             proposerAddress
             timestamp := doc.content.header.time
             txs
             lastCommit }) := by
  unfold toBlock commit
  cases doc.content.lastCommit <;> rfl

theorem commit_eq (doc : BlockDocument) : doc.commit = (do
    let entries ← (doc.entries.filter (·.validatorAddress != "")).mapM CommitEntryDocument.toEntry
    return { height := doc.content.lastCommit.elim 0 (·.height), entries }) := by
  unfold commit entries
  cases doc.content.lastCommit <;> rfl

theorem exists_writes (b : Block) : ∃ doc : BlockDocument, doc.Writes b := by
  have entries (es : List CommitEntry) : ∃ docs, WriteEntries docs es := by
    induction es with
    | nil => exact ⟨[], .none⟩
    | cons entry es ih =>
        obtain ⟨docs, rest⟩ := ih
        exact ⟨⟨Hex.encodeUpper entry.validatorAddress, entry.timestamp,
          entry.signature.map Base64.encode⟩ :: docs,
          .present ⟨Hex.writes_encodeUpper _, rfl, rfl⟩ rest⟩
  obtain ⟨docs, written⟩ := entries b.lastCommit.entries
  exact ⟨⟨b.hash, ⟨b.chainId, b.height, b.timestamp, Hex.encodeUpper b.proposerAddress⟩,
    some (b.txs.map Base64.encode), some ⟨b.lastCommit.height, docs⟩⟩,
    rfl, rfl, rfl, rfl, Hex.writes_encodeUpper _, rfl, rfl, written⟩

theorem Writes.toBlock_eq_ok (h : doc.Writes b)
    (hash : ∀ c ∈ b.hash.toList, c.toNat < 128 ∧ c.isLower = false)
    (signers : ∀ entry ∈ b.lastCommit.entries, entry.validatorAddress ≠ []) :
    doc.toBlock = .ok b := by
  have txs : (doc.content.txs.getD []).mapM readBase64 = .ok b.txs := by
    rw [h.txs, mapM_eq_ok_iff, List.map_map]
    exact List.map_congr_left fun bs _ => readBase64_eq_ok_iff.2 rfl
  have commit : doc.commit = .ok b.lastCommit := by
    rw [commit_eq, h.entries.mapM_toEntry signers, h.height_lastCommit]
    rfl
  rw [toBlock_eq, txs, commit, readHex_eq_ok_iff.2 h.proposerAddress, h.height, h.chainId,
    h.timestamp, Text.uppercase_eq_of_foldCase hash h.hash]
  rfl

/-- A block can be read if and only if all bytes in it can be, but for those of absent
validators. -/
theorem exists_toBlock_eq_ok_iff : (∃ b, doc.toBlock = .ok b) ↔
    (∀ tx ∈ doc.content.txs.getD [], ∃ bs, tx = Base64.encode bs) ∧
      (∀ entry ∈ doc.entries, entry.validatorAddress ≠ "" →
        (∃ bs, Hex.Writes entry.validatorAddress bs) ∧
          ∀ s, entry.signature = some s → ∃ bs, s = Base64.encode bs) ∧
      ∃ bs, Hex.Writes doc.content.header.proposerAddress bs := by
  have commit : (∃ commit, doc.commit = .ok commit) ↔ ∃ entries,
      (doc.entries.filter (·.validatorAddress != "")).mapM CommitEntryDocument.toEntry =
        .ok entries := by
    simp only [commit_eq, bind_eq_ok_iff]
    constructor
    · rintro ⟨_, entries, read, _⟩
      exact ⟨entries, read⟩
    · rintro ⟨entries, read⟩
      exact ⟨_, entries, read, rfl⟩
  have split : (∃ b, doc.toBlock = .ok b) ↔
      (∃ txs, (doc.content.txs.getD []).mapM readBase64 = .ok txs) ∧
        (∃ commit, doc.commit = .ok commit) ∧
        ∃ bs, readHex doc.content.header.proposerAddress = .ok bs := by
    simp only [toBlock_eq, bind_eq_ok_iff]
    constructor
    · rintro ⟨b, txs, first, commit, second, bs, third, _⟩
      exact ⟨⟨txs, first⟩, ⟨commit, second⟩, bs, third⟩
    · rintro ⟨⟨txs, first⟩, ⟨commit, second⟩, bs, third⟩
      exact ⟨_, txs, first, commit, second, bs, third, rfl⟩
  rw [split, commit, exists_mapM_eq_ok_iff, exists_mapM_eq_ok_iff]
  simp only [readBase64_eq_ok_iff, readHex_eq_ok_iff, CommitEntryDocument.exists_toEntry_eq_ok_iff,
    List.mem_filter, bne_iff_ne, and_imp]

theorem failsAsMalformed_toBlock (doc : BlockDocument) : FailsAsMalformed doc.toBlock := by
  rw [toBlock_eq]
  refine (failsAsMalformed_mapM failsAsMalformed_readBase64).bind fun _ => ?_
  refine FailsAsMalformed.bind ?_ fun _ => ?_
  · rw [commit_eq]
    exact (failsAsMalformed_mapM CommitEntryDocument.failsAsMalformed_toEntry).bind
      fun _ => failsAsMalformed_ok _
  · exact (failsAsMalformed_readHex _).bind fun _ => failsAsMalformed_ok _

/-- Reading inverts writing. A block whose hash is ASCII text in upper case, and whose entries have
addresses, can be written, and is read back however it is written. And any document is read if and
only if all its transactions and the signatures of entries with addresses are base 64 text, and the
proposer's address and those of the entries are hexadecimal; if not, it is malformed. -/
theorem toBlock_inverts_writing :
    (∀ b : Block, (∀ c ∈ b.hash.toList, c.toNat < 128 ∧ c.isLower = false) →
      (∀ entry ∈ b.lastCommit.entries, entry.validatorAddress ≠ []) →
      (∃ doc : BlockDocument, doc.Writes b) ∧
        ∀ doc : BlockDocument, doc.Writes b → doc.toBlock = .ok b) ∧
    ∀ doc : BlockDocument,
      ((∃ b, doc.toBlock = .ok b) ↔
        (∀ tx ∈ doc.content.txs.getD [], ∃ bs, tx = Base64.encode bs) ∧
        (∀ entry ∈ doc.entries, entry.validatorAddress ≠ "" →
          (∃ bs, Hex.Writes entry.validatorAddress bs) ∧
            ∀ s, entry.signature = some s → ∃ bs, s = Base64.encode bs) ∧
        ∃ bs, Hex.Writes doc.content.header.proposerAddress bs) ∧
      ∀ f, doc.toBlock = .error f → f.kind = .malformedData :=
  ⟨fun b hash signers => ⟨exists_writes b, fun _ written => written.toBlock_eq_ok hash signers⟩,
    fun doc => ⟨exists_toBlock_eq_ok_iff, failsAsMalformed_toBlock doc⟩⟩

def signedBlock : Block where
  height := 42
  hash := "AB"
  chainId := "quiet"
  proposerAddress := [0xAB]
  timestamp := "2021-06-01T15:00:00Z"
  txs := [[0x68, 0x69]]
  lastCommit := ⟨41, [⟨[0x0C], "2021-06-01T15:00:01Z", some []⟩]⟩

def signedDocument : BlockDocument where
  hash := "aB"
  content :=
    { header := ⟨"quiet", 42, "2021-06-01T15:00:00Z", "Ab"⟩
      txs := some ["aGk="]
      lastCommit := some ⟨41, [⟨"", "", some "?"⟩, ⟨"0c", "2021-06-01T15:00:01Z", some ""⟩]⟩ }

theorem toBlock_inverts_writing_signed :
    signedDocument.Writes signedBlock ∧ signedDocument.toBlock = .ok signedBlock := by
  have entry : CommitEntryDocument.Writes ⟨"0c", "2021-06-01T15:00:01Z", some ""⟩
      ⟨[0x0C], "2021-06-01T15:00:01Z", some []⟩ := ⟨by decide, rfl, by decide⟩
  have written : signedDocument.Writes signedBlock :=
    ⟨by decide, rfl, rfl, rfl, by decide, by decide, rfl, .absent rfl (.present entry .none)⟩
  have hash : ∀ c ∈ signedBlock.hash.toList, c.toNat < 128 ∧ c.isLower = false := by
    simp [signedBlock]
  exact ⟨written, (toBlock_inverts_writing.1 signedBlock hash (by decide)).2 _ written⟩

end BlockDocument

end Http
end ChainIndexer
