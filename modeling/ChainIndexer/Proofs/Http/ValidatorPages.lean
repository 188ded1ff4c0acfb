import ChainIndexer.Proofs.Http.Host
import ChainIndexer.Proofs.Steps

/-! Validator sets in pages. A host serves a list in pages of its own size, which need not be the
size that is asked for. -/
namespace ChainIndexer.Http

/-- The elements on a page. Pages are counted from one, and hold nothing past the end. -/
def onPage {α : Type} (size : Nat) (listed : List α) (page : Nat) : List α :=
  (listed.drop ((page - 1) * size)).take size

/-- Pages of a list. One without elements has a page too. -/
def pageCount {α : Type} (size : Nat) (listed : List α) : Nat :=
  max 1 ((listed.length + size - 1) / size)

section Pages

variable {α : Type} {size : Nat} {listed : List α}

theorem take_append_onPage (size : Nat) (listed : List α) (before : Nat) :
    listed.take (before * size) ++ onPage size listed (before + 1) =
      listed.take ((before + 1) * size) := by
  rw [onPage, Nat.add_sub_cancel, Nat.succ_mul, List.take_add]

theorem mul_lt_length (positive : 0 < size) {page : Nat} (within : page < pageCount size listed)
    (counted : 1 ≤ page) : page * size < listed.length := by
  have le : page + 1 ≤ (listed.length + size - 1) / size := by
    unfold pageCount at within
    omega
  have := (Nat.le_div_iff_mul_le positive).1 le
  rw [Nat.succ_mul] at this
  omega

theorem length_le_mul (positive : 0 < size) : listed.length ≤ pageCount size listed * size := by
  have le : (listed.length + size - 1) / size ≤ pageCount size listed := Nat.le_max_right _ _
  have := (Nat.div_lt_iff_lt_mul positive).1 (Nat.lt_succ_of_le le)
  rw [Nat.succ_mul] at this
  omega

end Pages

namespace ValidatorDocument

variable {doc : ValidatorDocument}

/-- Its address is hexadecimal and its key is base 64. -/
structure Readable (doc : ValidatorDocument) : Prop where
  address : (Hex.decode? doc.address).isSome = true
  publicKey : (Base64.decode? doc.publicKey).isSome = true

theorem Readable.toValidator (h : doc.Readable) : ∃ v, doc.toValidator = .ok v := by
  obtain ⟨address, decoded⟩ := Option.isSome_iff_exists.1 h.address
  obtain ⟨publicKey, decoded'⟩ := Option.isSome_iff_exists.1 h.publicKey
  refine ⟨⟨address, publicKey, doc.votingPower, doc.proposerPriority⟩, ?_⟩
  rw [ValidatorDocument.toValidator, readHex, readBase64, decoded, decoded']
  rfl

theorem readable_of_toValidator {v : ChainValidator} (read : doc.toValidator = .ok v) :
    doc.Readable := by
  obtain ⟨address, hex, read⟩ := bind_eq_ok read
  obtain ⟨publicKey, base64, _⟩ := bind_eq_ok read
  rw [readHex] at hex
  rw [readBase64] at base64
  constructor
  · cases decoded : Hex.decode? doc.address with
    | none => simp [decoded] at hex
    | some _ => rfl
  · cases decoded : Base64.decode? doc.publicKey with
    | none => simp [decoded] at base64
    | some _ => rfl

end ValidatorDocument

namespace Remote

def validatorsPath (height : Height) (page : Int) : String :=
  s!"/validators?height={height.toNat}&page={page}&per_page={perPage}"

def repliedPage (node : Remote) (host : Host) (time : Nat) (height : Height) (page : Int) :
    Except Fault ValidatorPage :=
  node.replied host time (validatorsPath height page) ValidatorPage.decoder

/-- The validators of a page, and how many are announced. -/
def readPage (node : Remote) (host : Host) (time : Nat) (height : Height) (page : Int) :
    Except Fault (List ChainValidator × Nat) := do
  let doc ← (node.repliedPage host time height page).mapError
    (Fault.within s!"failed to get validators {height.toNat}")
  let validators ← doc.validators.mapM ValidatorDocument.toValidator
  return (validators, doc.total.toNat)

end Remote

namespace Host

variable (host : Host) (node : Remote) (height : Height)

theorem run_validatorPage (page : Int32) (past : List Request) :
    host.run (node.validatorPage height page) past =
      ((node.repliedPage host past.length height page.toInt).mapError
          (Fault.within s!"failed to get validators {height.toNat}"),
        past ++ (node.rpcRequest (Remote.validatorsPath height page.toInt)).toOption.toList) := by
  unfold Remote.validatorPage
  rw [run_within, run_rpc]
  rfl

theorem run_validatorPages (found : List ChainValidator) (page : Int32) (past : List Request) :
    host.run (node.validatorPages height found page) past =
      let later :=
        past ++ (node.rpcRequest (Remote.validatorsPath height page.toInt)).toOption.toList
      match node.readPage host past.length height page.toInt with
      | .error f => (.error f, later)
      | .ok (validators, total) =>
        if 0 < validators.length ∧ (found ++ validators).length < total then
          host.run (node.validatorPages height (found ++ validators) (page + 1)) later
        else (.ok (found ++ validators), later) := by
  rw [Remote.validatorPages, run_bind, run_validatorPage]
  unfold Remote.readPage
  cases (node.repliedPage host past.length height page.toInt).mapError
      (Fault.within s!"failed to get validators {height.toNat}") with
  | error f => rfl
  | ok doc =>
      refine (run_bind _ _ _).trans ?_
      rw [run_liftExcept, ok_bind]
      cases doc.validators.mapM ValidatorDocument.toValidator with
      | error f => rfl
      | ok validators =>
          rw [ok_bind]
          exact apply_ite (fun client => host.run client _) _ _ _

end Host

/-- A host that serves a list in pages of one size, and says with each page how long the list is.
At any time, a question for a page may also fail. What it says past the end is left open. -/
structure Paginates (node : Remote) (host : Host) (height : Height) (size : Nat)
    (listed : List ValidatorDocument) : Prop where
  positive : 0 < size
  /-- Pages have numbers of thirty-one bits. -/
  few : pageCount size listed < 0x80000000
  page : ∀ (time page : Nat) doc, 1 ≤ page → page ≤ pageCount size listed →
    node.repliedPage host time height page = .ok doc →
      doc.validators = onPage size listed page ∧ doc.total.toNat = listed.length

/-- How the pages after some others can end: everyone listed has been read, by one request for each
page, or there is a page that is not answered, or someone who cannot be read. -/
inductive Ends (node : Remote) (host : Host) (height : Height) (size : Nat)
    (listed : List ValidatorDocument) (before : Nat) (past : List Request) :
    Except Fault (List ChainValidator) × List Request → Prop
  | drained (validators : List ChainValidator) (asked : List Request)
    (read : listed.map ValidatorDocument.toValidator = validators.map .ok)
    (requests : asked.map .ok =
      (List.range' (before + 1) (pageCount size listed - before)).map fun page : Nat =>
        node.rpcRequest (Remote.validatorsPath height page))
    (answered : ∀ page : Nat, before < page → page ≤ pageCount size listed →
      (node.repliedPage host (page - 1) height page).isOk = true) :
    Ends node host height size listed before past (.ok validators, past ++ asked)
  | unanswered (f : Fault) (requests : List Request) (page : Nat) (counted : 1 ≤ page)
    (within : page ≤ pageCount size listed)
    (failed : (node.repliedPage host (page - 1) height page).isOk = false) :
    Ends node host height size listed before past (.error f, requests)
  | unreadable (f : Fault) (requests : List Request) (doc : ValidatorDocument)
    (member : doc ∈ listed) (unreadable : ¬ doc.Readable) :
    Ends node host height size listed before past (.error f, requests)

namespace Ends

variable {node : Remote} {host : Host} {height : Height} {size : Nat}
  {listed : List ValidatorDocument} {before : Nat} {past : List Request}

theorem last {validators : List ChainValidator}
    (read : listed.map ValidatorDocument.toValidator = validators.map .ok)
    (every : pageCount size listed ≤ before) :
    Ends node host height size listed before past (.ok validators, past) := by
  have ended : Ends node host height size listed before past (.ok validators, past ++ []) := by
    refine .drained validators [] read ?_ ?_
    · rw [Nat.sub_eq_zero_of_le every]
      rfl
    · intro page after within
      omega
  rwa [List.append_nil] at ended

theorem cons {r : Request} {ended : Except Fault (List ChainValidator) × List Request}
    (asked : node.rpcRequest (Remote.validatorsPath height ↑(before + 1)) = .ok r)
    (answered : (node.repliedPage host before height ↑(before + 1)).isOk = true)
    (within : before < pageCount size listed)
    (later : Ends node host height size listed (before + 1) (past ++ [r]) ended) :
    Ends node host height size listed before past ended := by
  cases later with
  | drained validators others read requests rest =>
      rw [List.append_assoc]
      refine .drained validators (r :: others) read ?_ ?_
      · have pages : pageCount size listed - before = pageCount size listed - (before + 1) + 1 := by
          omega
        rw [pages, List.range'_succ, List.map_cons, List.map_cons, requests, asked]
      · intro page after below
        rcases Nat.eq_or_lt_of_le after with rfl | after
        · exact answered
        · exact rest page after below
  | unanswered f requests page counted within failed =>
      exact .unanswered f requests page counted within failed
  | unreadable f requests doc member unreadable =>
      exact .unreadable f requests doc member unreadable

end Ends

namespace Paginates

variable {node : Remote} {host : Host} {height : Height} {size : Nat}
  {listed : List ValidatorDocument}

theorem of_readPage (h : Paginates node host height size listed) {time before : Nat}
    {validators : List ChainValidator} {total : Nat} (within : before < pageCount size listed)
    (read : node.readPage host time height ↑(before + 1) = .ok (validators, total)) :
    (node.repliedPage host time height ↑(before + 1)).isOk = true ∧
      (onPage size listed (before + 1)).map ValidatorDocument.toValidator =
        validators.map .ok ∧
      total = listed.length := by
  obtain ⟨doc, replied, read⟩ := bind_eq_ok read
  obtain ⟨validators', decoded, read⟩ := bind_eq_ok read
  cases read
  cases answered : node.repliedPage host time height ↑(before + 1) with
  | error f =>
      rw [answered] at replied
      cases replied
  | ok doc' =>
      rw [answered] at replied
      obtain rfl : doc' = doc := Except.ok.inj replied
      obtain ⟨served, announced⟩ :=
        h.page time (before + 1) doc' (Nat.le_add_left 1 before) within answered
      refine ⟨rfl, ?_, announced⟩
      rw [← served]
      exact map_eq_map_of_mapM_eq_ok decoded fun _ _ made => made

theorem of_readPage_error (h : Paginates node host height size listed) {time before : Nat}
    {f : Fault} (within : before < pageCount size listed)
    (failed : node.readPage host time height ↑(before + 1) = .error f) :
    (node.repliedPage host time height ↑(before + 1)).isOk = false ∨
      ∃ doc ∈ listed, ¬ doc.Readable := by
  cases answered : node.repliedPage host time height ↑(before + 1) with
  | error f => exact .inl rfl
  | ok doc =>
      right
      obtain ⟨served, _⟩ := h.page time (before + 1) doc (Nat.le_add_left 1 before) within answered
      unfold Remote.readPage at failed
      rw [answered] at failed
      change (doc.validators.mapM ValidatorDocument.toValidator >>= _) = _ at failed
      cases decoded : doc.validators.mapM ValidatorDocument.toValidator with
      | ok validators =>
          rw [decoded] at failed
          cases failed
      | error e =>
          obtain ⟨item, member, failed⟩ := exists_mem_of_mapM_eq_error decoded
          rw [served] at member
          refine ⟨item, List.mem_of_mem_drop (List.mem_of_mem_take member), ?_⟩
          intro readable
          obtain ⟨v, made⟩ := readable.toValidator
          rw [made] at failed
          cases failed

/-- The pages of a list are too few for their numbers to wrap around. -/
theorem toInt_page (h : Paginates node host height size listed) {page : Nat}
    (within : page ≤ pageCount size listed) : (Int32.ofNat page).toInt = page :=
  Int32.toInt_ofNat_of_lt (Nat.lt_of_le_of_lt within h.few)

/-- Pages are asked for until everyone is found. After some pages, those found are the ones listed
there, in order. -/
theorem run_pages (h : Paginates node host height size listed) {before : Nat}
    {found : List ChainValidator} {past : List Request} (within : before < pageCount size listed)
    (told : past.length = before)
    (known : (listed.take (before * size)).map ValidatorDocument.toValidator = found.map .ok) :
    Ends node host height size listed before past
      (host.run (node.validatorPages height found (Int32.ofNat (before + 1))) past) := by
  rw [Host.run_validatorPages, told, h.toInt_page within]
  cases read : node.readPage host before height ↑(before + 1) with
  | error f =>
      rcases h.of_readPage_error within read with failed | ⟨doc, member, unreadable⟩
      · exact .unanswered f _ (before + 1) (Nat.le_add_left 1 before) within failed
      · exact .unreadable f _ doc member unreadable
  | ok page =>
      obtain ⟨validators, total⟩ := page
      obtain ⟨answered, decoded, rfl⟩ := h.of_readPage within read
      obtain ⟨r, asked⟩ := Remote.exists_rpcRequest answered
      have known' : (listed.take ((before + 1) * size)).map ValidatorDocument.toValidator =
          (found ++ validators).map .ok := by
        rw [← take_append_onPage, List.map_append, List.map_append, known, decoded]
      have few : min (before * size) listed.length = found.length := by
        simpa using congrArg List.length known
      have more : min ((before + 1) * size) listed.length = (found ++ validators).length := by
        simpa using congrArg List.length known'
      apply Ends.cons asked answered within
      rw [asked]
      dsimp only
      by_cases last : before + 1 = pageCount size listed
      · have all : listed.length ≤ (before + 1) * size := last ▸ length_le_mul h.positive
        rw [List.take_of_length_le all] at known'
        rw [if_neg (by omega)]
        exact .last known' (Nat.le_of_eq last.symm)
      · -- More are listed than this page and those before it hold, so it holds someone.
        have below : (before + 1) * size < listed.length :=
          mul_lt_length h.positive (by omega) (Nat.le_add_left 1 before)
        have served : 0 < validators.length := by
          rw [Nat.succ_mul] at below more
          rw [List.length_append] at more
          have := h.positive
          omega
        have next : Int32.ofNat (before + 1) + 1 = Int32.ofNat (before + 1 + 1) :=
          (Int32.ofNat_add _ 1).symm
        rw [if_pos ⟨served, by omega⟩, next]
        apply h.run_pages (by omega) _ known'
        simp [told]
termination_by pageCount size listed - before

end Paginates

namespace Remote

end Remote

def pageText (address : String) : String :=
  "\x7b\"result\":\x7b\"validators\":[\x7b\"address\":\"" ++ address ++ "\"," ++
    "\"pub_key\":\x7b\"value\":\"Ag==\"\x7d,\"voting_power\":\"5\"," ++
    "\"proposer_priority\":-1\x7d],\"total\":\"2\"\x7d\x7d"

/-- A host that serves one validator a page, however many are asked for. -/
def Host.onePerPage : Host := fun _ r =>
  match r.url.query with
  | some "height=7&page=1&per_page=100" => .ok ⟨200, Utf8.encode (pageText "0A")⟩
  | some "height=7&page=2&per_page=100" => .ok ⟨200, Utf8.encode (pageText "ff")⟩
  | _ => .error (.because .nodeFault "timed out")

def twoDocuments : List ValidatorDocument := [⟨"0A", "Ag==", 5, -1⟩, ⟨"ff", "Ag==", 5, -1⟩]

theorem repliedPage_onePerPage (time page : Nat) (counted : 1 ≤ page) (within : page ≤ 2) :
    Remote.near.repliedPage .onePerPage time 7 page =
      .ok ⟨onPage 1 twoDocuments page, 2⟩ := by
  change Remote.near.repliedPage .onePerPage 0 7 page = _
  apply eq_ok_of_toOption
  obtain rfl | rfl : page = 1 ∨ page = 2 := by omega
  · decide +kernel
  · decide +kernel

theorem paginates_onePerPage : Paginates .near .onePerPage 7 1 twoDocuments where
  positive := by decide
  few := by decide
  page time page doc counted within answered := by
    cases (repliedPage_onePerPage time page counted within).symm.trans answered
    exact ⟨rfl, rfl⟩

namespace Remote

end Remote
end ChainIndexer.Http
