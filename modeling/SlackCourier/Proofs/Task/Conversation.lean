import SlackCourier.Proofs.Message.Lookup
import SlackCourier.Proofs.Message.Payload
import SlackCourier.Proofs.Task.Confirmation
import SlackCourier.Proofs.Task.Message

/-!
# The requests of a message

A message comes to at most two requests: the message that is edited is read, and then the new one is
posted.  The post is the last request, whatever becomes of it, and the text that goes out is the
text that is told of.
-/

namespace SlackCourier

namespace Task

open Session

/-- The text of the message that a task describes: each part of it is a field of the task, and the
policy is the one it names, or else the automatic one. -/
def sentText (task : Task) : Text :=
  let draft : Message.Draft :=
    { text := task.msg
      channel := task.channel
      threadId := task.threadId
      username := task.username
      iconUrl := task.iconUrl
      iconEmoji := task.iconEmoji
      linkNames := some task.linkNames
      parse := task.parse
      color := some task.color
      attachments := task.attachments
      blocks := task.blocks
      messageId := task.messageId
      policy := task.prependHash.getD .auto }
  (Json.object draft.payload).compact

theorem compact_payload (task : Task) : (Json.object task.payload).compact = task.sentText := rfl

/-- The requests that a message can come to, each with what has gone before it. -/
inductive Conversation (task : Task) (world : World) : List Request → Prop
  | silent : Conversation task world []
  | look {channel messageId : Text} : task.Edits channel messageId →
      Conversation task world [Message.lookupRequest task.token channel messageId task.insecure]
  | post {target : Target} : task.messageId = none →
      Target.of task.token false task.domain = .ok target →
      Conversation task world [Message.requestTo target task.sentText task.insecure]
  | edit {channel messageId : Text} {answer message : Members} {target : Target} :
      task.Edits channel messageId → world.Grants 0 answer →
      answer.get? "ok" ≠ some (.bool false) →
      answer.get? "messages" = some (.list [.object message]) → task.changes message = true →
      Target.of task.token true task.domain = .ok target →
      Conversation task world
        [Message.lookupRequest task.token channel messageId task.insecure,
          Message.requestTo target task.sentText task.insecure]

theorem sought_eq_ok_iff {task : Task} {channel messageId : Text} {world : World}
    {message : Members} : task.sought channel messageId world = .ok message ↔
      ∃ answer, world.Grants 0 answer ∧ answer.get? "ok" ≠ some (.bool false) ∧
        answer.get? "messages" = some (.list [.object message]) := by
  unfold sought
  simp only [Message.readMessage_eq_ok_iff, (World.Later.refl world).readObject_eq_ok_iff]

/-- How the requests and the outcome of a message go together: nothing is posted, or the post is the
last request and its answer decides. -/
inductive Course (task : Task) (world : World) (ending : Ending Fault Outcome) : Prop
  | unsent : task.Conversation world ending.calls → (∀ q ∈ ending.calls, q.method = .get) →
      (∀ outcome, ending.result = .ok outcome → outcome.kind? ≠ some ("message" : Text)) →
      Course task world ending
  | sent {before : List Request} {target : Target} {after : World} :
      Target.of task.token task.messageId.isSome task.domain = .ok target →
      task.Conversation world (before ++ [Message.requestTo target task.sentText task.insecure]) →
      ending.calls = before ++ [Message.requestTo target task.sentText task.insecure] →
      world.Later after before.length →
      ending.result = task.readSent target (after.answer target.url).1 → Course task world ending

theorem course_of_sendMessage {task : Task} {world after : World} {before : List Request}
    {ending : Ending Fault Outcome} (hlater : world.Later after before.length)
    (hcalls : ending.calls = before ++ (task.sendMessage after).calls)
    (hresult : ending.result = (task.sendMessage after).result)
    (hbefore : task.Conversation world before) (hget : ∀ q ∈ before, q.method = .get)
    (hpost : ∀ target, Target.of task.token task.messageId.isSome task.domain = .ok target →
      task.Conversation world (before ++ [Message.requestTo target task.sentText task.insecure])) :
    task.Course world ending := by
  have hedits : (task.payload.get? "ts").isSome = task.messageId.isSome := by
    rw [payload, Message.Draft.get?_payload_ts]
    exact Option.isSome_map ..
  cases htarget : Target.of task.token (task.payload.get? "ts").isSome task.domain with
  | error failure =>
    rw [sendMessage_of_no_target htarget] at hcalls hresult
    simp only [fail_apply, Ending.calls_nil, List.append_nil] at hcalls
    refine .unsent (hcalls ▸ hbefore) (hcalls ▸ hget) fun outcome h => ?_
    rw [hresult] at h
    cases h
  | ok target =>
    rw [sendMessage_of_target htarget, compact_payload] at hcalls
    rw [sendMessage_of_target htarget] at hresult
    rw [hedits] at htarget
    exact .sent htarget (hpost target htarget) hcalls hlater hresult

theorem course_runMessage (task : Task) (dryRun : Bool) (world : World) :
    task.Course world (task.runMessage dryRun world) := by
  cases hplan : task.plan with
  | error failure =>
    rw [runMessage_of_refused hplan]
    exact .unsent .silent (by simp) fun outcome h => by cases h
  | ok wanted =>
    cases wanted with
    | none =>
      have hid := messageId_of_plan hplan
      rw [runMessage_of_new hplan]
      cases dryRun with
      | true =>
        refine .unsent .silent (by simp) fun outcome h => ?_
        rw [← Except.ok.inj h]
        simp [Outcome.kind?]
      | false =>
        refine course_of_sendMessage (World.Later.refl world) rfl rfl .silent (by simp) ?_
        intro target htarget
        rw [hid] at htarget
        exact .post hid htarget
    | some wanted =>
      obtain ⟨channel, messageId⟩ := wanted
      have hedits := edits_of_plan hplan
      have hlook : ∀ q ∈ [Message.lookupRequest task.token channel messageId task.insecure],
          q.method = .get := by
        intro q hq
        rw [List.mem_singleton.1 hq]
        rfl
      cases hread : task.sought channel messageId world with
      | error fault =>
        rw [runMessage_of_unread hplan hread]
        exact .unsent (.look hedits) hlook fun outcome h => by cases h
      | ok message =>
        cases hverdict : task.verdict channel message dryRun with
        | some outcome =>
          rw [runMessage_of_decided hplan hread hverdict]
          refine .unsent (.look hedits) hlook fun told h => ?_
          rw [← Except.ok.inj h]
          rcases kind?_of_verdict hverdict with hkind | hkind <;> simp [hkind]
        | none =>
          rw [runMessage_of_undecided hplan hread hverdict]
          obtain ⟨answer, hgrants, hok, hmessages⟩ := sought_eq_ok_iff.1 hread
          have hchanges := (verdict_eq_none_iff.1 hverdict).1
          refine course_of_sendMessage (World.later_answer world _) rfl rfl (.look hedits) hlook ?_
          intro target htarget
          rw [hedits.messageId_eq] at htarget
          exact .edit hedits hgrants hok hmessages hchanges htarget

theorem sentOutcome_eq_message {payload answer told : Members} {ts channel : Option Text}
    {text : Text} (h : sentOutcome payload answer = .ok (.message ts channel told text)) :
    told = answer ∧ text = (Json.object payload).compact := by
  unfold sentOutcome at h
  split at h
  · cases h
  · have hsame := Except.ok.inj h
    rw [Outcome.message.injEq] at hsame
    obtain ⟨-, -, htold, htext⟩ := hsame
    exact ⟨htold.symm, htext.symm⟩
  · cases h

theorem readSent_eq_message {task : Task} {target : Target} {met : Except (Option Text) Response}
    {ts channel : Option Text} {answer : Members} {text : Text}
    (h : task.readSent target met = .ok (.message ts channel answer text)) :
    text = task.sentText ∧
      ∃ response, met = .ok response ∧ response.status = okStatus ∧
        response.object = .ok answer := by
  obtain ⟨response, hmet, hstatus, ⟨-, found, hobject, hsent⟩ | ⟨-, hwebhook⟩⟩ :=
    readSent_eq_ok_iff.1 h
  · obtain ⟨rfl, htext⟩ := sentOutcome_eq_message hsent
    exact ⟨htext.trans task.compact_payload, response, hmet, hstatus, hobject⟩
  · cases hwebhook

/-- A message that is turned away is told of with its text, unless the reason cannot be asked
for. -/
theorem readSent_of_badStatus {task : Task} {target : Target} {response : Response}
    (h : response.status ≠ okStatus) :
    (∃ reason, task.readSent target (.ok response) =
      .error (.failure (.notDelivered task.sentText target.shownUrl reason response.status))) ∨
    ∃ mishap, task.readSent target (.ok response) = .error (.mishap mishap) := by
  unfold readSent Message.readDelivery
  simp only [received, Except.bind, Message.outcomeAt, if_neg h, compact_payload]
  unfold Message.rejection
  cases response.body with
  | text body => exact Or.inl ⟨_, rfl⟩
  | broken reason => exact Or.inl ⟨_, rfl⟩
  | crashed reason => exact Or.inr ⟨_, rfl⟩

theorem Conversation.url_of_post {task : Task} {world : World} {calls : List Request}
    (h : task.Conversation world calls) (htoken : classify task.token = .webApi) {q : Request}
    (hq : q ∈ calls) (hpost : q.method = .post) :
    q.url = if task.messageId.isSome then Endpoint.updateMessage else Endpoint.postMessage := by
  have hurl : ∀ {edits : Bool} {target : Target},
      Target.of task.token edits task.domain = .ok target →
        target.url = if edits then Endpoint.updateMessage else Endpoint.postMessage := by
    intro edits target htarget
    rw [Target.of_webApi htoken] at htarget
    rw [← Except.ok.inj htarget]
  cases h with
  | silent => cases hq
  | look hedits =>
    rw [List.mem_singleton.1 hq] at hpost
    cases hpost
  | post hid htarget =>
    rw [List.mem_singleton.1 hq, hid]
    exact hurl htarget
  | edit hedits _ _ _ _ htarget =>
    rcases List.mem_cons.1 hq with hfirst | hlast
    · rw [hfirst] at hpost
      cases hpost
    · rw [List.mem_singleton.1 hlast, hedits.messageId_eq]
      exact hurl htarget

theorem Course.conversation {task : Task} {world : World} {ending : Ending Fault Outcome}
    (h : task.Course world ending) : task.Conversation world ending.calls := by
  cases h with
  | unsent hconversation => exact hconversation
  | sent _ hconversation hcalls => exact hcalls ▸ hconversation

/-- A message that counts as sent is told of with the text that went out and the answer to it. -/
theorem Course.message {task : Task} {world : World} {ending : Ending Fault Outcome}
    (h : task.Course world ending) {ts channel : Option Text} {answer : Members} {text : Text}
    (hmessage : ending.result = .ok (.message ts channel answer text)) :
    text = task.sentText ∧ ∃ before post, ending.calls = before ++ [post] ∧
      post.method = .post ∧ world.Grants before.length answer := by
  cases h with
  | unsent _ _ hkind => exact absurd rfl (hkind _ hmessage)
  | sent _ _ hcalls hlater hread =>
    rw [hread] at hmessage
    obtain ⟨htext, response, hmet, hstatus, hobject⟩ := readSent_eq_message hmessage
    have hanswers := hlater.answer_eq_ok_iff.1 hmet
    exact ⟨htext, _, _, hcalls, rfl, response, hanswers, hstatus, hobject⟩

theorem Course.badStatus {task : Task} {world : World} {ending : Ending Fault Outcome}
    (h : task.Course world ending) {before : List Request} {post : Request} {response : Response}
    (hlast : ending.calls = before ++ [post]) (hpost : post.method = .post)
    (hanswers : world.Answers before.length response) (hstatus : response.status ≠ okStatus) :
    ∃ target, Target.of task.token task.messageId.isSome task.domain = .ok target ∧
      ((∃ reason, ending.result = .error (.failure
        (.notDelivered task.sentText target.shownUrl reason response.status))) ∨
      ∃ mishap, ending.result = .error (.mishap mishap)) := by
  cases h with
  | unsent _ hget =>
    have hgot := hget post (by rw [hlast]; exact List.mem_concat_self)
    rw [hpost] at hgot
    cases hgot
  | @sent earlier target after htarget _ hcalls hlater hread =>
    have hsame : earlier = before := by
      rw [hcalls] at hlast
      exact (List.append_inj' hlast rfl).1
    subst hsame
    rw [hlater.answer_eq_ok_iff.2 hanswers] at hread
    refine ⟨target, htarget, ?_⟩
    rw [hread]
    exact readSent_of_badStatus hstatus

def plainEdit : Task := { plainMessage with channel := some "C1", messageId := some "1.5" }

/-- Surroundings that show the message without its link names, and then take the new one. -/
def answeringEdit : World :=
  let found : Members := [("messages", .list [.object [("text", .string "hello")]])]
  let accepted : Members := [("ok", .bool true)]
  { answering found with script := (answering found).script ++ (answering accepted).script }

end Task

end SlackCourier
