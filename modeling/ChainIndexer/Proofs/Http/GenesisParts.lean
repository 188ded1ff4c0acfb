import ChainIndexer.Proofs.Base64
import ChainIndexer.Proofs.Http.Series
import ChainIndexer.Proofs.Steps

/-! The genesis document in parts. A host serves consecutive parts of some bytes, and says with each
how many there are. The parts are put together before anything is decoded, so they may be cut
anywhere. -/
namespace ChainIndexer.Http

namespace Remote

variable {node : Remote} {host : Host} {time start i : Nat}

def partPath (i : Nat) : String := s!"/genesis_chunked?chunk={i}"

/-- What comes of asking for a part after so many other requests. -/
def repliedPart (node : Remote) (host : Host) (time i : Nat) : Except Fault GenesisChunk :=
  node.replied host time (partPath i) GenesisChunk.decoder

/-- The bytes of a part, and how many parts are announced. -/
def readPart (node : Remote) (host : Host) (time i : Nat) : Except Fault (Bytes × Nat) := do
  let chunk ← node.repliedPart host time i
  let bytes ← readBase64 chunk.data
  return (bytes, chunk.total.toNat)

theorem replied_of_readPart {part : Bytes × Nat} (read : node.readPart host time i = .ok part) :
    ∃ chunk, node.repliedPart host time i = .ok chunk ∧
      Base64.decode? chunk.data = some part.1 ∧ chunk.total.toNat = part.2 := by
  obtain ⟨chunk, replied, read⟩ := bind_eq_ok read
  obtain ⟨bytes, decoded, read⟩ := bind_eq_ok read
  cases read
  refine ⟨chunk, replied, ?_, rfl⟩
  rw [readBase64] at decoded
  cases base64 : Base64.decode? chunk.data with
  | none => simp [base64] at decoded
  | some bytes' =>
      rw [base64] at decoded
      cases decoded
      rfl

theorem readPart_of_replied {total : UInt64} {bytes : Bytes}
    (replied : node.repliedPart host time i = .ok ⟨total, Base64.encode bytes⟩) :
    node.readPart host time i = .ok (bytes, total.toNat) := by
  rw [readPart, replied, ok_bind, readBase64, Base64.decode?_encode]
  rfl

def partSeries (node : Remote) (host : Host) (start : Nat) : Series (Bytes × Nat) where
  asks i := node.rpcRequest (partPath i)
  read i := node.readPart host (start + i) i
  more parts part := decide (parts.length + 1 < part.2)
  requested read := by
    obtain ⟨chunk, replied, _⟩ := replied_of_readPart read
    exact exists_rpcRequest (congrArg Except.isOk replied)

def joined (parts : List (Bytes × Nat)) : Bytes := parts.flatMap (·.1)

theorem joined_map (served : List Bytes) (count : Nat) :
    joined (served.map fun bytes => (bytes, count)) = served.flatten := by
  induction served with
  | nil => rfl
  | cons bytes rest ih => exact congrArg (bytes ++ ·) ih

end Remote

theorem Host.run_genesisChunks (host : Host) (node : Remote) (bytes : Bytes) (i : Nat)
    (past : List Request) :
    host.run (node.genesisChunks bytes i) past =
      let later := past ++ (node.rpcRequest (Remote.partPath i)).toOption.toList
      match node.readPart host past.length i with
      | .error f => (.error f, later)
      | .ok (more, total) =>
        if i + 1 < total then host.run (node.genesisChunks (bytes ++ more) (i + 1)) later
        else (.ok (bytes ++ more), later) := by
  rw [Remote.genesisChunks]
  refine (run_bind (node.rpc (Remote.partPath i) GenesisChunk.decoder) _ past).trans ?_
  rw [run_rpc]
  unfold Remote.readPart Remote.repliedPart
  cases node.replied host past.length (Remote.partPath i) GenesisChunk.decoder with
  | error f => rfl
  | ok chunk =>
      refine (run_bind _ _ _).trans ?_
      rw [run_liftExcept, ok_bind]
      cases readBase64 chunk.data with
      | error f => rfl
      | ok more => exact apply_ite (fun client => host.run client _) _ _ _

namespace Remote

variable {node : Remote} {host : Host} {start : Nat}

theorem walks_genesisChunks (node : Remote) (host : Host) (past : List Request) :
    (node.partSeries host past.length).Walks host past
      (fun parts => node.genesisChunks (joined parts) parts.length) joined := by
  intro parts unfinished
  have asked : (past ++ (node.partSeries host past.length).requests parts.length).length =
      past.length + parts.length := by
    rw [List.length_append, unfinished.length_requests]
  refine (Host.run_genesisChunks host node _ _ _).trans ?_
  rw [asked, Series.requests_succ, ← List.append_assoc]
  simp only [partSeries, joined, List.flatMap_append, List.flatMap_singleton, decide_eq_true_eq,
    List.length_append, List.length_singleton]
  cases node.readPart host (past.length + parts.length) parts.length <;> rfl

theorem length_lt_of_unfinished {parts : List (Bytes × Nat)} {count : Nat} (positive : 0 < count)
    (announced : ∀ i < count, ∀ part, (node.partSeries host start).read i = .ok part →
      part.2 ≤ count)
    (unfinished : (node.partSeries host start).Unfinished parts) : parts.length < count := by
  induction unfinished with
  | none => exact positive
  | @next parts part earlier read wanted ih =>
      have total := announced _ ih part read
      rw [List.length_append, List.length_singleton]
      exact Nat.lt_of_lt_of_le (of_decide_eq_true wanted) total

theorem ends_of_served {served : List Bytes} {count : Nat}
    {ended : Except Fault (List (Bytes × Nat))} (nonempty : served ≠ [])
    (read : ∀ i (h : i < served.length), (node.partSeries host start).read i =
      .ok (served[i], served.length))
    (ends : (node.partSeries host start).Ends count ended) :
    count = served.length ∧ ended = .ok (served.map fun bytes => (bytes, served.length)) := by
  have few : ∀ parts, (node.partSeries host start).Unfinished parts →
      parts.length < served.length := by
    intro parts unfinished
    refine length_lt_of_unfinished (List.length_pos_iff.2 nonempty) ?_ unfinished
    intro i below part found
    rw [read i below] at found
    cases found
    exact Nat.le_refl _
  cases ends with
  | failed earlier failed =>
      rw [read _ (few _ earlier)] at failed
      cases failed
  | @last parts part earlier last enough =>
      have ends := Series.Ends.last earlier last enough
      have within := few parts earlier
      rw [read _ within] at last
      cases last
      -- The last part is one after which no other is announced.
      have counted : parts.length + 1 = served.length := by
        have enough := of_decide_eq_false enough
        omega
      refine ⟨counted, congrArg Except.ok ?_⟩
      apply List.ext_getElem
      · rw [List.length_append, List.length_singleton, List.length_map, counted]
      · intro i h h'
        rw [List.length_map] at h'
        rw [List.getElem_map]
        exact Except.ok.inj ((ends.read_eq h).symm.trans (read i h'))

theorem genesisInParts_ends (node : Remote) (host : Host) (past : List Request) :
    ∃ count ended, (node.partSeries host past.length).Ends count ended ∧
      host.run node.genesisInParts past =
        ((ended.map joined).bind GenesisDoc.parse,
          past ++ (node.partSeries host past.length).requests count) := by
  obtain ⟨count, ended, ends, ran⟩ :=
    (walks_genesisChunks node host past).ends (fun parts => UInt64.size - parts.length)
      (by
        intro parts part _ read wanted
        obtain ⟨chunk, _, _, total⟩ := replied_of_readPart read
        have below := chunk.total.toNat_lt_size
        have wanted := of_decide_eq_true wanted
        rw [List.length_append, List.length_singleton]
        omega)
      .none
  refine ⟨count, ended, ends, ?_⟩
  have ran : host.run (node.genesisChunks [] 0) past =
      (ended.map joined, past ++ (node.partSeries host past.length).requests count) :=
    (congrArg _ (List.append_nil past).symm).trans ran
  unfold genesisInParts
  rw [Host.run_bind, ran]
  cases ended with
  | error f => rfl
  | ok parts => exact Host.run_liftExcept _ _

/-- What is answered has been put together from parts, each of which was requested and answered. -/
theorem exists_parts_of_answer {past : List Request} {count : Nat}
    {ended : Except Fault (List (Bytes × Nat))} {doc : GenesisDoc}
    (ends : (node.partSeries host past.length).Ends count ended)
    (answered : (ended.map joined).bind GenesisDoc.parse = .ok doc) :
    ∃ parts : List Bytes, parts ≠ [] ∧
      ((node.partSeries host past.length).requests count).length = parts.length ∧
      (∀ i (h : i < parts.length), ∃ chunk,
        node.repliedPart host (past.length + i) i = .ok chunk ∧
          Base64.decode? chunk.data = some parts[i]) ∧
      GenesisDoc.parse parts.flatten = .ok doc := by
  cases ended with
  | error f => cases answered
  | ok parts =>
      obtain ⟨counted, read⟩ := ends.map_read
      have whole : (parts.map (·.1)).flatten = joined parts := rfl
      refine ⟨parts.map (·.1), ?_, ?_, ?_, whole ▸ answered⟩
      · cases ends with
        | last => simp
      · rw [← counted, List.length_map]
        simpa using congrArg List.length (Series.map_requests read)
      · intro i h
        rw [List.length_map] at h
        obtain ⟨chunk, replied, decoded, _⟩ := replied_of_readPart (ends.read_eq h)
        rw [List.getElem_map]
        exact ⟨chunk, replied, decoded⟩

/-- The genesis document in parts is the document in the bytes put together. If a host serves
consecutive parts of some bytes in base 64, and says with each how many parts there are, then each
is requested once, in order, and the answer is what the bytes are read as. If a host says the same
number with each part, then no more are requested, but for one. If a part that was requested was
not answered, or is not base 64, then there is no answer; and an answer never comes but from parts
that were all requested and answered. -/
theorem genesis_put_together (node : Remote) (host : Host) (past : List Request) :
    let (answer, requests) := host.run node.genesisInParts past
    (∀ (parts : List Bytes) (total : UInt64), parts ≠ [] → total.toNat = parts.length →
      (∀ i (h : i < parts.length), node.repliedPart host (past.length + i) i =
        .ok ⟨total, Base64.encode parts[i]⟩) →
      answer = GenesisDoc.parse parts.flatten ∧
      ∃ asked, requests = past ++ asked ∧
        asked.map .ok = (List.range parts.length).map fun i => node.rpcRequest (partPath i)) ∧
    (∀ total, (∀ i < max total 1, ∀ chunk, node.repliedPart host (past.length + i) i = .ok chunk →
        chunk.total.toNat = total) →
      requests.length ≤ past.length + max total 1) ∧
    (∀ i, past.length + i < requests.length →
      ((node.repliedPart host (past.length + i) i).isOk = false ∨
        ∃ chunk, node.repliedPart host (past.length + i) i = .ok chunk ∧
          Base64.decode? chunk.data = none) →
      ∃ f, answer = .error f) ∧
    (∀ doc, answer = .ok doc →
      ∃ parts : List Bytes, parts ≠ [] ∧ requests.length = past.length + parts.length ∧
        (∀ i (h : i < parts.length), ∃ chunk,
          node.repliedPart host (past.length + i) i = .ok chunk ∧
            Base64.decode? chunk.data = some parts[i]) ∧
        GenesisDoc.parse parts.flatten = .ok doc) := by
  obtain ⟨count, ended, ends, ran⟩ := genesisInParts_ends node host past
  rw [ran]
  refine ⟨?_, ?_, ?_, ?_⟩
  · intro parts total nonempty announced served
    have read : ∀ i (h : i < parts.length), (node.partSeries host past.length).read i =
        .ok (parts[i], parts.length) := by
      intro i h
      rw [← announced]
      exact readPart_of_replied (served i h)
    obtain ⟨rfl, rfl⟩ := ends_of_served nonempty read ends
    refine ⟨?_, _, rfl, ?_⟩
    · exact congrArg GenesisDoc.parse (joined_map parts parts.length)
    · obtain ⟨counted, all⟩ := ends.map_read
      rw [← counted]
      exact Series.map_requests all
  · intro total announces
    have few : ∀ parts, (node.partSeries host past.length).Unfinished parts →
        parts.length < max total 1 := by
      intro parts unfinished
      refine length_lt_of_unfinished (by omega) ?_ unfinished
      intro i below part found
      obtain ⟨chunk, replied, _, announced⟩ := replied_of_readPart found
      have same := announces i below chunk replied
      omega
    have below : count ≤ max total 1 := by
      cases ends with
      | failed earlier failed => exact few _ earlier
      | last earlier read enough => exact few _ earlier
    have requested := (node.partSeries host past.length).length_requests_le count
    rw [List.length_append]
    omega
  · intro i requested failed
    cases answered : (ended.map joined).bind GenesisDoc.parse with
    | error f => exact ⟨f, rfl⟩
    | ok doc =>
        obtain ⟨parts, _, counted, all, _⟩ := exists_parts_of_answer ends answered
        rw [List.length_append] at requested
        obtain ⟨chunk, replied, decoded⟩ := all i (by omega)
        rw [replied] at failed
        rcases failed with unanswered | ⟨chunk', same, undecodable⟩
        · cases unanswered
        · cases same
          rw [decoded] at undecodable
          cases undecodable
  · intro doc answered
    obtain ⟨parts, some, counted, all, parsed⟩ := exists_parts_of_answer ends answered
    exact ⟨parts, some, by rw [List.length_append, counted], all, parsed⟩

end Remote

/-- A genesis document whose chain has a name with a character of two bytes. -/
def genesisText : String := "\x7b\"chain_id\":\"né\",\"genesis_time\":\"\"\x7d"

def genesisHalves : List Bytes :=
  [(Utf8.encode genesisText).take 15, (Utf8.encode genesisText).drop 15]

def partText (data : String) : String :=
  "\x7b\"result\":\x7b\"total\":\"2\",\"data\":\"" ++ data ++ "\"\x7d\x7d"

/-- A host that serves a genesis document in two parts, which are these texts. -/
def Host.inHalves (first second : String) : Host := fun _ r =>
  match r.url.query with
  | some "chunk=0" => .ok ⟨200, Utf8.encode (partText first)⟩
  | some "chunk=1" => .ok ⟨200, Utf8.encode (partText second)⟩
  | _ => .error (.because .nodeFault "timed out")

def Host.whole : Host :=
  .inHalves "eyJjaGFpbl9pZCI6Im7D" "qSIsImdlbmVzaXNfdGltZSI6IiJ9"

/-- The second half has lost its first character. -/
def Host.broken : Host := .inHalves "eyJjaGFpbl9pZCI6Im7D" "SIsImdlbmVzaXNfdGltZSI6IiJ9"

namespace Remote

theorem repliedPart_whole (i : Nat) (h : i < genesisHalves.length) :
    near.repliedPart .whole i i = .ok ⟨2, Base64.encode genesisHalves[i]⟩ := by
  change i < 2 at h
  obtain rfl | rfl : i = 0 ∨ i = 1 := by omega
  · change _ = Except.ok (⟨2, Base64.encode ((Utf8.encode genesisText).take 15)⟩ : GenesisChunk)
    exact eq_ok_of_toOption (by decide +kernel)
  · change _ = Except.ok (⟨2, Base64.encode ((Utf8.encode genesisText).drop 15)⟩ : GenesisChunk)
    exact eq_ok_of_toOption (by decide +kernel)

/-- A document is put together from its halves, which say that there are two. With a half that is
not base 64 there is no document. -/
theorem genesis_put_together_halves :
    (∃ requests, Host.whole.run near.genesisInParts [] =
        (GenesisDoc.parse genesisHalves.flatten, requests) ∧ requests.length ≤ 2) ∧
      (GenesisDoc.parse genesisHalves.flatten).isOk = true ∧
      ∃ f, (Host.broken.run near.genesisInParts []).1 = .error f := by
  have served : ∀ i (h : i < genesisHalves.length), near.repliedPart .whole (0 + i) i =
      .ok ⟨2, Base64.encode genesisHalves[i]⟩ := by
    intro i h
    rw [Nat.zero_add]
    exact repliedPart_whole i h
  have asked : (Host.broken.run near.genesisInParts []).2.length = 2 := by
    have first : near.readPart .broken 0 0 = .ok ((Utf8.encode genesisText).take 15, 2) :=
      eq_ok_of_toOption (by decide +kernel)
    have once : ([] ++ (near.rpcRequest (partPath 0)).toOption.toList).length = 1 := by
      decide +kernel
    have twice : ([] ++ (near.rpcRequest (partPath 0)).toOption.toList ++
        (near.rpcRequest (partPath 1)).toOption.toList).length = 2 := by
      decide +kernel
    have second : (near.readPart .broken 1 1).toOption = none := by decide +kernel
    unfold genesisInParts
    rw [Host.run_bind, Host.run_genesisChunks, List.length_nil, first]
    dsimp only
    rw [if_pos (by decide), Host.run_genesisChunks, once]
    cases read : near.readPart .broken 1 1 with
    | ok part =>
        rw [read] at second
        cases second
    | error f => exact twice
  obtain ⟨whole, few, _⟩ := genesis_put_together near .whole []
  obtain ⟨_, _, broken, _⟩ := genesis_put_together near .broken []
  obtain ⟨answer, _⟩ := whole genesisHalves 2 (by decide) rfl served
  refine ⟨⟨_, Prod.ext answer rfl, ?_⟩, by decide +kernel, ?_⟩
  · refine few 2 ?_
    intro i below chunk replied
    cases (served i below).symm.trans replied
    rfl
  · refine broken 1 ?_ (.inr ⟨⟨2, "SIsImdlbmVzaXNfdGltZSI6IiJ9"⟩, ?_, by decide +kernel⟩)
    · exact asked.symm ▸ Nat.lt_add_one 1
    · exact eq_ok_of_toOption (by decide +kernel)

end Remote
end ChainIndexer.Http
