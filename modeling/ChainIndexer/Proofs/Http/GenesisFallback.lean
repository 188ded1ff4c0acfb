import ChainIndexer.Proofs.Http.GenesisParts
import ChainIndexer.Proofs.Text

/-! Falling back to the genesis document in parts. A host that finds the document too large says so
in words, which are looked for in what the fault says in full. That is cut, so words that come too
late are not found. -/
namespace ChainIndexer

/-- What a fault would say in full if nothing were cut. -/
def Fault.uncut (f : Fault) : String :=
  match f.cause with
  | some cause => f.kind.name ++ ": " ++ cause.text
  | none => f.kind.name

namespace Http

namespace Remote

variable {f : Fault}

/-- The mark stands early enough in the words of an RPC server to be found: it ends within what is
kept of a cause, of which the separator before the words takes two bytes. -/
def MarkedEarly (words : String) : Prop :=
  ∃ before after, words.toList = before ++ tooLargeMark.toList ++ after ∧
    2 + Text.width (before ++ tooLargeMark.toList) ≤ Fault.causeLimit

theorem not_mark_infix_name (kind : FaultKind) : ¬ tooLargeMark.toList <:+: kind.name.toList := by
  rw [← Text.standsIn_iff]
  cases kind <;> decide

/-- A fault says that a document is too large if the mark is in what is kept of its cause. -/
theorem saysTooLarge_iff_in_kept {cause : Message} (caused : f.cause = some cause) :
    saysTooLarge f = true ↔
      tooLargeMark.toList <:+: Text.charsBefore cause.text.toList (Fault.causeLimit - 2) := by
  unfold saysTooLarge Text.hasPart
  rw [Text.standsIn_iff]
  have said : f.message.text.toList = f.kind.name.toList ++
      ':' :: ([] ++ ' ' :: Text.charsBefore cause.text.toList (Fault.causeLimit - 2)) := by
    simp only [Fault.message, caused, Message.text_prepend, Message.text_clip, Text.clip_eq,
      String.toList_append, String.toList_ofList]
    rfl
  rw [said, Text.infix_append_cons_iff (by decide), Text.infix_append_cons_iff (by decide),
    or_iff_right (not_mark_infix_name f.kind), or_iff_right (by decide)]

theorem saysTooLarge_iff {cause : Message} (caused : f.cause = some cause) :
    saysTooLarge f = true ↔ MarkedEarly cause.text := by
  rw [saysTooLarge_iff_in_kept caused, Text.infix_charsBefore_iff]
  refine exists_congr fun before => exists_congr fun after => and_congr_right fun _ => ?_
  unfold Fault.causeLimit
  omega

theorem saysTooLarge_because (kind : FaultKind) (words : String) :
    saysTooLarge (.because kind words) = true ↔ MarkedEarly words := by
  rw [saysTooLarge_iff rfl, Message.text_plain]

theorem hasPart_uncut (found : saysTooLarge f = true) :
    Text.hasPart tooLargeMark f.uncut = true := by
  unfold Text.hasPart
  rw [Text.standsIn_iff]
  cases caused : f.cause with
  | none =>
      rw [saysTooLarge, Fault.message, caused] at found
      unfold Text.hasPart at found
      rw [Text.standsIn_iff, Message.text_plain] at found
      exact absurd found (not_mark_infix_name f.kind)
  | some cause =>
      obtain ⟨before, after, whole, _⟩ := (saysTooLarge_iff caused).1 found
      unfold Fault.uncut
      rw [caused]
      refine ⟨f.kind.name.toList ++ ": ".toList ++ before, after, ?_⟩
      simp only [String.toList_append, whole, List.append_assoc]

end Remote

theorem Host.run_genesis (host : Host) (node : Remote) (past : List Request) :
    host.run node.genesis past =
      let later := past ++ (node.rpcRequest "/genesis").toOption.toList
      match node.replied host past.length "/genesis"
          (Json.Decoder.single "genesis" GenesisDoc.decoder) with
      | .ok doc => (.ok doc, later)
      | .error f =>
        if Remote.saysTooLarge f then host.run node.genesisInParts later
        else (.error (f.within "failed to get genesis"), later) := by
  unfold Remote.genesis
  rw [run_bind, run_lift, run_rpc]
  dsimp only
  cases node.replied host past.length "/genesis"
      (Json.Decoder.single "genesis" GenesisDoc.decoder) with
  | ok doc => rfl
  | error f => exact apply_ite (fun client => host.run client _) _ _ _

namespace Remote

/-- The genesis document is asked for in parts exactly if an RPC server says early enough that it is
too large. Any other failure is passed on with its kind, and nothing else is asked; so is one whose
complete text does not have the mark. -/
theorem genesis_in_parts_if_marked_early (node : Remote) (host : Host) (past : List Request) :
    let asked := past ++ (node.rpcRequest "/genesis").toOption.toList
    (∀ reply message data, node.fetched host past.length (node.rpcAddress ++ "/genesis") none
        (Reply.decoder (Json.Decoder.single "genesis" GenesisDoc.decoder)) = .ok reply →
      reply.error = some (message ++ ": " ++ data) →
      (MarkedEarly (message ++ ": " ++ data) →
        host.run node.genesis past = host.run node.genesisInParts asked) ∧
      (¬ MarkedEarly (message ++ ": " ++ data) →
        host.run node.genesis past =
          (.error ((Fault.because .nodeFault (message ++ ": " ++ data)).within
            "failed to get genesis"), asked))) ∧
    ∀ f, node.replied host past.length "/genesis"
        (Json.Decoder.single "genesis" GenesisDoc.decoder) = .error f →
      Text.hasPart tooLargeMark f.uncut = false →
      host.run node.genesis past = (.error (f.within "failed to get genesis"), asked) ∧
        (f.within "failed to get genesis").kind = f.kind := by
  intro asked
  have ran := Host.run_genesis host node past
  refine ⟨?_, ?_⟩
  · intro reply message data answered refused
    rw [replied_of_error answered refused] at ran
    refine ⟨fun early => ?_, fun late => ?_⟩
    · exact ran.trans (if_pos ((saysTooLarge_because _ _).2 early))
    · exact ran.trans (if_neg fun found => late ((saysTooLarge_because _ _).1 found))
  · intro f failed unmarked
    rw [failed] at ran
    refine ⟨ran.trans (if_neg fun found => ?_), rfl⟩
    rw [hasPart_uncut found] at unmarked
    cases unmarked

end Remote

def errorText (message : String) : String :=
  "\x7b\"error\":\x7b\"message\":\"" ++ message ++ "\"\x7d\x7d"

def Host.refusing (message : String) : Host := fun time r =>
  match r.url.query with
  | none => .ok ⟨500, Utf8.encode (errorText message)⟩
  | some _ => Host.whole time r

def Host.silent : Host := fun _ _ => .error (.because .nodeFault "timed out")

namespace Remote

def refusalOf (host : Host) : Option String :=
  (near.fetched host 0 (near.rpcAddress ++ "/genesis") none
    (Reply.decoder (Json.Decoder.single "genesis" GenesisDoc.decoder))).toOption.bind (·.error)

theorem exists_reply_of_refusalOf {host : Host} {words : String}
    (refused : refusalOf host = some words) :
    ∃ reply, near.fetched host 0 (near.rpcAddress ++ "/genesis") none
        (Reply.decoder (Json.Decoder.single "genesis" GenesisDoc.decoder)) = .ok reply ∧
      reply.error = some words := by
  obtain ⟨reply, answered, refused⟩ := Option.bind_eq_some_iff.1 refused
  exact ⟨reply, eq_ok_of_toOption answered, refused⟩

/-- A message with so much before the mark that its last character is cut off. -/
def longMessage : String := String.ofList (List.replicate 112 'x') ++ tooLargeMark

theorem refusalOf_longMessage :
    refusalOf (.refusing longMessage) = some (longMessage ++ ": " ++ "") := by
  decide +kernel

theorem saysTooLarge_longMessage :
    saysTooLarge (.because .nodeFault (longMessage ++ ": " ++ "")) = false := by
  rw [← Bool.not_eq_true, saysTooLarge_iff_in_kept rfl, ← Text.standsIn_iff]
  decide +kernel

def politeMessage : String := "see genesis_chunked"

theorem refusalOf_politeMessage :
    refusalOf (.refusing politeMessage) = some (politeMessage ++ ": " ++ "") := by
  decide +kernel

/-- The mark stands early in the words of one host, late in those of another one, and a third host
says nothing. -/
theorem genesis_in_parts_if_marked_early_polite :
    (MarkedEarly (politeMessage ++ ": " ++ "") ∧
      ∃ asked, Host.run (.refusing politeMessage) near.genesis [] =
        Host.run (.refusing politeMessage) near.genesisInParts asked) ∧
    (¬ MarkedEarly (longMessage ++ ": " ++ "") ∧
      ∃ f asked, Host.run (.refusing longMessage) near.genesis [] = (.error f, asked) ∧
        asked.length = 1) ∧
    (∃ f asked, Host.silent.run near.genesis [] = (.error f, asked) ∧ f.kind = .nodeFault ∧
      asked.length = 1) := by
  have early : MarkedEarly (politeMessage ++ ": " ++ "") :=
    (saysTooLarge_because .nodeFault _).1 (by decide +kernel)
  have late : ¬ MarkedEarly (longMessage ++ ": " ++ "") := by
    rw [← saysTooLarge_because .nodeFault, saysTooLarge_longMessage]
    exact Bool.false_ne_true
  have once : ([] ++ (near.rpcRequest "/genesis").toOption.toList).length = 1 := by
    decide +kernel
  obtain ⟨polite, answered, refused⟩ := exists_reply_of_refusalOf refusalOf_politeMessage
  obtain ⟨long, answered', refused'⟩ := exists_reply_of_refusalOf refusalOf_longMessage
  have silent : near.replied .silent 0 "/genesis"
      (Json.Decoder.single "genesis" GenesisDoc.decoder) =
        .error (.because .nodeFault "timed out") := by
    obtain ⟨r, asked⟩ : ∃ r, near.rpcRequest "/genesis" = .ok r := exists_eq_ok (by decide +kernel)
    unfold rpcRequest at asked
    rw [replied, fetched, asked]
    rfl
  obtain ⟨marked, _⟩ := genesis_in_parts_if_marked_early near (.refusing politeMessage) []
  obtain ⟨marked', _⟩ := genesis_in_parts_if_marked_early near (.refusing longMessage) []
  obtain ⟨_, unmarked⟩ := genesis_in_parts_if_marked_early near .silent []
  obtain ⟨ran, kept⟩ := unmarked _ silent (by decide +kernel)
  exact ⟨⟨early, _, (marked polite _ _ answered refused).1 early⟩,
    ⟨late, _, _, (marked' long _ _ answered' refused').2 late, once⟩, _, _, ran, kept, once⟩

theorem length_lt_genesisInParts (host : Host) (past : List Request) :
    past.length < (host.run near.genesisInParts past).2.length := by
  obtain ⟨count, ended, ends, ran⟩ := genesisInParts_ends near host past
  obtain ⟨r, first⟩ : ∃ r, near.rpcRequest (partPath 0) = .ok r := exists_eq_ok (by decide +kernel)
  have requested : r ∈ (near.partSeries host past.length).requests count := by
    refine List.mem_flatMap.2 ⟨0, List.mem_range.2 ?_, ?_⟩
    · cases ends <;> exact Nat.succ_pos _
    · change r ∈ (near.rpcRequest (partPath 0)).toOption.toList
      rw [first]
      exact List.mem_singleton_self r
  rw [ran, List.length_append]
  exact Nat.lt_add_of_pos_right (List.length_pos_of_mem requested)

/-- A mark that comes late is missed, and the document is not asked for in parts. -/
theorem late_mark_missed :
    Text.hasPart tooLargeMark longMessage = true ∧
      refusalOf (.refusing longMessage) = some (longMessage ++ ": " ++ "") ∧
      ∃ f asked, Host.run (.refusing longMessage) near.genesis [] = (.error f, asked) ∧
        asked.length = 1 ∧
        Host.run (.refusing longMessage) near.genesis [] ≠
          Host.run (.refusing longMessage) near.genesisInParts asked := by
  obtain ⟨reply, answered, refused⟩ := exists_reply_of_refusalOf refusalOf_longMessage
  have ran := Host.run_genesis (.refusing longMessage) near []
  rw [List.length_nil, replied_of_error answered refused] at ran
  dsimp only at ran
  rw [saysTooLarge_longMessage, if_neg Bool.false_ne_true] at ran
  refine ⟨by decide +kernel, refusalOf_longMessage, _, _, ran, by decide +kernel, ?_⟩
  intro same
  rw [ran] at same
  have more := length_lt_genesisInParts (.refusing longMessage)
    ([] ++ (near.rpcRequest "/genesis").toOption.toList)
  rw [← same] at more
  exact Nat.lt_irrefl _ more

end Remote
end Http
end ChainIndexer
