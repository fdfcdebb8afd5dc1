import SlackCourier.Proofs.Exchange.Turns
import SlackCourier.Proofs.Json.Members

/-!
# What is found for a message

A message is looked up in one request that names its channel and its time.  What is found is the
only message in the answer, whatever time that message says it has.  Every other answer fails, and
the failure has a code of its own kind unless there are no words for it.
-/

namespace SlackCourier.Message

theorem sole_eq_ok_iff {ts : Text} {answer message : Members} :
    sole ts answer = .ok message ↔ answer.get? "ok" ≠ some (.bool false) ∧
      answer.get? "messages" = some (.list [.object message]) := by
  constructor
  · intro h
    unfold sole at h
    split_ifs at h with hrefused
    refine ⟨hrefused, ?_⟩
    split at h
    · cases h
    · cases h
    · rename_i found hitems
      obtain ⟨value, hvalue, hlist⟩ := Option.bind_eq_some_iff.1 hitems
      rw [Except.ok.injEq] at h
      rw [hvalue]
      cases value <;> simp_all [Json.items?]
    · cases h
    · cases h
  · rintro ⟨hok, hmessages⟩
    simp [sole, hok, hmessages, Json.items?]

theorem code_of_sole {ts : Text} {answer : Members} {failure : Failure}
    (h : sole ts answer = .error failure) :
    failure.code = .api ∨ failure.code = .protocol ∨ failure.code = .data := by
  unfold sole at h
  split_ifs at h
  · rw [← Except.error.inj h]
    exact Or.inl rfl
  · split at h
    · rw [← Except.error.inj h]
      exact Or.inr (Or.inl rfl)
    · rw [← Except.error.inj h]
      exact Or.inr (Or.inr rfl)
    · cases h
    · rw [← Except.error.inj h]
      exact Or.inr (Or.inl rfl)
    · rw [← Except.error.inj h]
      exact Or.inr (Or.inr rfl)

section

variable {ts url : Text} {met : Except (Option Text) Response}

theorem readMessage_eq_ok_iff {message : Members} :
    readMessage ts url met = .ok message ↔
      ∃ answer, Step.readingMessage.readObject "conversations.history" url met = .ok answer ∧
        answer.get? "ok" ≠ some (.bool false) ∧
          answer.get? "messages" = some (.list [.object message]) := by
  unfold readMessage
  cases Step.readingMessage.readObject "conversations.history" url met with
  | error fault => simp [Except.bind]
  | ok answer => simp only [Except.bind, mapError_eq_ok_iff, sole_eq_ok_iff, Except.ok.injEq,
      exists_eq_left']

theorem readMessage_eq_error {fault : Fault} (h : readMessage ts url met = .error fault) :
    (∃ failure, fault = .failure failure ∧ (failure.code = .transport ∨
      failure.code = .protocol ∨ failure.code = .api ∨ failure.code = .data)) ∨
    fault = .mishap .wordless ∧ Wordless met := by
  unfold readMessage at h
  cases hread : Step.readingMessage.readObject "conversations.history" url met with
  | error cause =>
    rw [hread] at h
    obtain rfl := Except.error.inj h
    rcases Step.readObject_eq_error hread with ⟨failure, rfl, hcode⟩ | hwordless
    · exact Or.inl ⟨failure, rfl, hcode.imp_right Or.inl⟩
    · exact Or.inr hwordless
  | ok answer =>
    rw [hread] at h
    cases hsole : sole ts answer with
    | error failure =>
      simp only [Except.bind, hsole, mapError_error, Except.error.injEq] at h
      refine Or.inl ⟨failure, h.symm, ?_⟩
      rcases code_of_sole hsole with hcode | hcode | hcode
      · exact Or.inr (Or.inr (Or.inl hcode))
      · exact Or.inr (Or.inl hcode)
      · exact Or.inr (Or.inr (Or.inr hcode))
    | ok message => simp [Except.bind, hsole] at h

theorem readMessage_eq_mishap_iff {mishap : Mishap} :
    readMessage ts url met = .error (.mishap mishap) ↔ mishap = .wordless ∧ Wordless met := by
  constructor
  · intro h
    rcases readMessage_eq_error h with ⟨failure, hfailure, -⟩ | ⟨hmishap, hwordless⟩
    · cases hfailure
    · exact ⟨Fault.mishap.inj hmishap, hwordless⟩
  · rintro ⟨rfl, hwordless⟩
    rw [readMessage, Step.readObject_of_wordless _ _ _ hwordless]
    rfl

end

/-- Whether a response brings a message alone: its status is 200, and its body writes an object that
does not say that all is not well and whose list of messages has that message and no other. -/
def Brings (response : Response) (message : Members) : Prop :=
  response.status = okStatus ∧ ∃ body, ∃ answer : Members, response.body = .text body ∧
    Json.parse body = some (.object answer) ∧ answer.get? "ok" ≠ some (.bool false) ∧
      answer.get? "messages" = some (.list [.object message])

theorem get?_ok_dropReservedMembers {answer : Members} :
    Members.get? (Json.dropReservedMembers answer) "ok" = some (.bool false) ↔
      answer.get? "ok" = some (.bool false) := by
  rw [Members.get?_dropReservedMembers (by decide)]
  simp

theorem get?_messages_dropReservedMembers {answer message : Members} :
    Members.get? (Json.dropReservedMembers answer) "messages" = some (.list [.object message]) ↔
      ∃ raw, answer.get? "messages" = some (.list [.object raw]) ∧
        message = Json.dropReservedMembers raw := by
  rw [Members.get?_dropReservedMembers (by decide)]
  cases answer.get? "messages" with
  | none => simp
  | some value =>
    simp only [Option.map_some, Option.some.injEq, Json.dropReserved_eq_list_iff,
      List.map_eq_singleton_iff, Json.dropReserved_eq_object_iff]
    constructor
    · rintro ⟨_, rfl, _, rfl, raw, rfl, hmessage⟩
      exact ⟨raw, rfl, hmessage⟩
    · rintro ⟨raw, rfl, hmessage⟩
      exact ⟨_, rfl, _, rfl, raw, rfl, hmessage⟩

theorem find_apply (token channel ts : Text) (insecure : Bool) (world : World) :
    find token channel ts insecure world =
      let met := world.answer (lookupRequest token channel ts insecure).url
      ⟨readMessage ts (lookupRequest token channel ts insecure).url met.1,
        [.request (lookupRequest token channel ts insecure)], met.2⟩ :=
  congrFun (find_eq_once token channel ts insecure) world

theorem find_eq_ok_iff {token channel ts : Text} {insecure : Bool} {world : World}
    {message : Members} : (find token channel ts insecure world).result = .ok message ↔
      ∃ response raw, world.Answers 0 response ∧ Brings response raw ∧
        message = Json.dropReservedMembers raw := by
  rw [find_apply]
  simp only [readMessage_eq_ok_iff, (World.Later.refl world).readObject_eq_ok_iff]
  constructor
  · rintro ⟨answer, ⟨response, hanswers, hstatus, hobject⟩, hok, hmessages⟩
    obtain ⟨body, written, hbody, hparse, rfl⟩ := Response.object_eq_ok_iff.1 hobject
    rw [ne_eq, get?_ok_dropReservedMembers] at hok
    obtain ⟨raw, hraw, hmessage⟩ := get?_messages_dropReservedMembers.1 hmessages
    exact ⟨response, raw, hanswers, ⟨hstatus, body, written, hbody, hparse, hok, hraw⟩, hmessage⟩
  · rintro ⟨response, raw, hanswers, ⟨hstatus, body, written, hbody, hparse, hok, hraw⟩, hmessage⟩
    refine ⟨Json.dropReservedMembers written, ⟨response, hanswers, hstatus, ?_⟩, ?_, ?_⟩
    · exact Response.object_eq_ok_iff.2 ⟨body, written, hbody, hparse, rfl⟩
    · rwa [ne_eq, get?_ok_dropReservedMembers]
    · exact get?_messages_dropReservedMembers.2 ⟨raw, hraw, hmessage⟩

theorem find_eq_mishap_iff {token channel ts : Text} {insecure : Bool} {world : World}
    {mishap : Mishap} : (find token channel ts insecure world).result = .error (.mishap mishap) ↔
      mishap = .wordless ∧ ∃ turn, world.script.head? = some turn ∧ turn.answer.Wordless := by
  rw [find_apply, ← World.wordless_answer_iff]
  exact readMessage_eq_mishap_iff

/-- A message is found exactly when the one answer brings a message alone, and it is that message
without what is reserved in it; the time that it says it has is not looked at.  Everything else is a
failure with a code of its own kind, unless there are no words for why there is no object. -/
theorem found_alone (token channel ts : Text) (insecure : Bool) (world : World) :
    let ending := find token channel ts insecure world
    ending.calls = [lookupRequest token channel ts insecure] ∧
    (∀ message, ending.result = .ok message ↔ ∃ response raw, world.Answers 0 response ∧
      Brings response raw ∧ message = Json.dropReservedMembers raw) ∧
    (∀ failure, ending.result = .error (.failure failure) → failure.code = .transport ∨
      failure.code = .protocol ∨ failure.code = .api ∨ failure.code = .data) ∧
    ∀ mishap, ending.result = .error (.mishap mishap) ↔ mishap = .wordless ∧
      ∃ turn, world.script.head? = some turn ∧ turn.answer.Wordless := by
  intro ending
  refine ⟨?_, fun message => find_eq_ok_iff, fun failure hfailure => ?_,
    fun mishap => find_eq_mishap_iff⟩
  · unfold ending
    rw [find_apply]
    rfl
  · unfold ending at hfailure
    rw [find_apply] at hfailure
    rcases readMessage_eq_error hfailure with ⟨cause, hcause, hcode⟩ | ⟨hmishap, -⟩
    · obtain rfl := Fault.failure.inj hcause
      exact hcode
    · cases hmishap

/-- A message of another time is found for the time that was asked for; and a rejection without
words, of the request or of the body, leaves no failure of its own. -/
theorem other_message_found :
    let body : Text :=
      "\x7b\"ok\":true,\"messages\":[\x7b\"ts\":\"2.5\",\"text\":\"other\"\x7d]\x7d"
    let result (answer : Answer) :=
      (find "xoxb-1" "C1" "1.5" false ⟨[⟨[], answer⟩], default, []⟩).result
    result (.response ⟨okStatus, "OK", .text body⟩) =
        .ok [("ts", .string "2.5"), ("text", .string "other")] ∧
      ∀ failure, result (.failure none) ≠ .error (.failure failure) ∧
        result (.response ⟨okStatus, "OK", .broken none⟩) ≠ .error (.failure failure) := by
  intro body result
  constructor
  · have hbrings : Brings ⟨okStatus, "OK", .text body⟩
        [("ts", .string "2.5"), ("text", .string "other")] :=
      ⟨rfl, body, [("ok", .bool true), ("messages", .list [.object
        [("ts", .string "2.5"), ("text", .string "other")]])],
        rfl, by decide +kernel, by decide, by decide⟩
    exact find_eq_ok_iff.2 ⟨_, _, ⟨[], rfl⟩, hbrings, by decide⟩
  · have hmishap : ∀ answer : Answer, answer.Wordless →
        result answer = .error (.mishap .wordless) :=
      fun answer hwordless => find_eq_mishap_iff.2 ⟨rfl, _, rfl, hwordless⟩
    intro failure
    rw [hmishap _ (Or.inl rfl), hmishap _ (Or.inr ⟨_, rfl, rfl, rfl⟩)]
    exact ⟨by simp, by simp⟩

end SlackCourier.Message
