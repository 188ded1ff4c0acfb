import ChainIndexer.Proofs.Http.Series
import ChainIndexer.Proofs.Http.ValidatorPages

/-! Validator sets from any host. Pages are asked for until those found are as many as the last page
announces, or until a page holds nobody. So a host that stops at an empty page is taken at its
word, and the set that is answered can be shorter than it announces. -/
namespace ChainIndexer.Http

/-- Everyone on some pages, each of which comes with a number that it announces. -/
def heldBy (pages : List (List ChainValidator × Nat)) : List ChainValidator := pages.flatMap (·.1)

theorem heldBy_concat (pages : List (List ChainValidator × Nat))
    (page : List ChainValidator × Nat) : heldBy (pages ++ [page]) = heldBy pages ++ page.1 := by
  simp [heldBy]

namespace Remote

variable {node : Remote} {host : Host} {height : Height} {time : Nat} {page : Int}

theorem of_readPage {read : List ChainValidator × Nat}
    (h : node.readPage host time height page = .ok read) :
    (∃ r, node.rpcRequest (validatorsPath height page) = .ok r) ∧ read.2 < UInt64.size := by
  obtain ⟨doc, replied, h⟩ := bind_eq_ok h
  obtain ⟨validators, _, h⟩ := bind_eq_ok h
  cases h
  refine ⟨?_, doc.total.toNat_lt_size⟩
  cases answered : node.repliedPage host time height page with
  | error f =>
      rw [answered] at replied
      cases replied
  | ok doc' => exact exists_rpcRequest (congrArg Except.isOk answered)

/-- The pages of a validator set, asked for after so many other requests. More is wanted after a
page that holds someone, while fewer are found than it announces. After 2147483647 pages their
numbers go on from -2147483648. -/
def validatorSeries (node : Remote) (host : Host) (height : Height) (start : Nat) :
    Series (List ChainValidator × Nat) where
  asks i := node.rpcRequest (validatorsPath height (Int32.ofNat (i + 1)).toInt)
  read i := node.readPage host (start + i) height (Int32.ofNat (i + 1)).toInt
  more pages page := decide (0 < page.1.length ∧ (heldBy (pages ++ [page])).length < page.2)
  requested read := (of_readPage read).1

theorem walks_validatorPages (node : Remote) (host : Host) (height : Height)
    (past : List Request) :
    (node.validatorSeries host height past.length).Walks host past
      (fun pages => node.validatorPages height (heldBy pages) (Int32.ofNat (pages.length + 1)))
      heldBy := by
  intro pages unfinished
  have asked : (past ++ (node.validatorSeries host height past.length).requests
      pages.length).length = past.length + pages.length := by
    rw [List.length_append, unfinished.length_requests]
  refine (Host.run_validatorPages host node height _ _ _).trans ?_
  have next : Int32.ofNat (pages.length + 1) + 1 = Int32.ofNat (pages.length + 1 + 1) :=
    (Int32.ofNat_add _ 1).symm
  rw [asked, Series.requests_succ, ← List.append_assoc, next]
  simp only [validatorSeries, heldBy_concat, decide_eq_true_eq, List.length_append,
    List.length_singleton]
  cases node.readPage host (past.length + pages.length) height
    (Int32.ofNat (pages.length + 1)).toInt <;> rfl

/-- What validators come to, whatever the host does. Either a page after others cannot be read, and
there is no answer; or the answer is everyone on the pages that were read, and these are as many as
the last one announces, unless it is empty. -/
theorem validators_full_or_last_page_empty (node : Remote) (host : Host) (height : Height)
    (past : List Request) :
    let series := node.validatorSeries host height past.length
    let answer := (host.run (node.validators height) past).1
    (∃ f pages, answer = .error f ∧ series.Unfinished pages ∧
      series.read pages.length = .error f) ∨
    ∃ set pages last, answer = .ok set ∧ series.Unfinished pages ∧
      series.read pages.length = .ok last ∧ set = ⟨height, heldBy (pages ++ [last])⟩ ∧
      (last.2 ≤ set.validators.length ∨ last.1 = []) := by
  intro series answer
  obtain ⟨count, ended, ends, ran⟩ :=
    (walks_validatorPages node host height past).ends
      (fun pages => UInt64.size - (heldBy pages).length)
      (by
        intro pages page _ read wanted
        have below := (of_readPage read).2
        simp only [validatorSeries, heldBy_concat, decide_eq_true_eq, List.length_append]
          at wanted ⊢
        omega)
      .none
  have answered : answer = (ended.map heldBy).map fun found => ⟨height, found⟩ := by
    change (host.run (node.validatorPages height [] 1 >>= _) past).1 = _
    have ran : host.run (node.validatorPages height [] 1) past =
        (ended.map heldBy, past ++ series.requests count) :=
      (congrArg _ (List.append_nil past).symm).trans ran
    rw [Host.run_bind, ran]
    cases ended <;> rfl
  cases ends with
  | @failed pages f earlier failed => exact .inl ⟨f, pages, answered, earlier, failed⟩
  | @last pages page earlier read enough =>
      refine .inr ⟨_, pages, page, answered, earlier, read, rfl, ?_⟩
      simp only [validatorSeries, decide_eq_false_iff_not] at enough
      rcases Nat.eq_zero_or_pos page.1.length with nobody | someone
      · exact .inr (List.eq_nil_of_length_eq_zero nobody)
      · exact .inl (Nat.le_of_not_lt fun short => enough ⟨someone, short⟩)

end Remote

def emptyPageText : String := "\x7b\"result\":\x7b\"validators\":[],\"total\":\"2\"\x7d\x7d"

/-- A host that announces two validators and serves one of them, and then an empty page. -/
def Host.stopping : Host := fun _ r =>
  match r.url.query with
  | some "height=7&page=1&per_page=100" => .ok ⟨200, Utf8.encode (pageText "0A")⟩
  | some "height=7&page=2&per_page=100" => .ok ⟨200, Utf8.encode emptyPageText⟩
  | _ => .error (.because .nodeFault "timed out")

namespace Remote

/-- One validator is answered, although the last page that was read announces two. -/
theorem short_set_accepted :
    near.readPage .stopping 1 7 2 = .ok ([], 2) ∧
      ∃ v requests, Host.stopping.run (near.validators 7) [] = (.ok ⟨7, [v]⟩, requests) ∧
        requests.length = 2 := by
  have first : near.readPage .stopping 0 7 1 = .ok ([⟨[10], [2], 5, -1⟩], 2) :=
    eq_ok_of_toOption (by decide +kernel)
  have last : near.readPage .stopping 1 7 2 = .ok ([], 2) := eq_ok_of_toOption (by decide +kernel)
  have asked : ([] ++ (near.rpcRequest (validatorsPath 7 1)).toOption.toList).length = 1 := by
    decide +kernel
  have ran : Host.stopping.run (near.validators 7) [] = (.ok ⟨7, [⟨[10], [2], 5, -1⟩]⟩,
      [] ++ (near.rpcRequest (validatorsPath 7 1)).toOption.toList ++
        (near.rpcRequest (validatorsPath 7 2)).toOption.toList) := by
    have one : (1 : Int32).toInt = 1 := rfl
    have two : (1 + 1 : Int32).toInt = 2 := rfl
    unfold validators
    rw [Host.run_bind, Host.run_validatorPages, List.length_nil, one, first]
    dsimp only
    rw [if_pos (by decide), Host.run_validatorPages, asked, two, last]
    rfl
  exact ⟨last, _, _, ran, by decide +kernel⟩

end Remote
end ChainIndexer.Http
