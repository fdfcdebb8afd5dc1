import SlackCourier.Proofs.Task.Conversation

/-!
# Which message an edit reads and which it writes

An edit names its message twice: in the query that reads it and in the payload that is sent.  The
timestamp is the same in both.  The channel goes into the query as the task has it and into the
payload as the policy for the number sign has it, so the two can be different channels.
-/

namespace SlackCourier

open Session

theorem Message.url_lookupRequest (token channel ts : Text) (insecure : Bool) :
    (lookupRequest token channel ts insecure).url =
      "https://slack.com/api/conversations.history?" ++ Text.formEncode
        [("channel", channel), ("ts", ts), ("limit", "1"), ("inclusive", "true")] := by
  have hstart : ("https://slack.com/api/conversations.history?" : Text) =
      Endpoint.history ++ "?" := by decide
  rw [hstart]
  rfl

namespace Task

theorem Conversation.post_of_edit {task : Task} {world : World} {calls : List Request}
    (h : task.Conversation world calls) {messageId : Text} (hid : task.messageId = some messageId)
    {post : Request} (hpost : post ∈ calls) (hmethod : post.method = .post) :
    ∃ channel, task.Edits channel messageId ∧
      calls = [Message.lookupRequest task.token channel messageId task.insecure, post] ∧
      post.body = some (.text task.sentText) := by
  cases h with
  | silent => cases hpost
  | look hedits =>
    rw [List.mem_singleton.1 hpost] at hmethod
    cases hmethod
  | post hnew =>
    rw [hid] at hnew
    cases hnew
  | @edit channel given _ _ target hedits =>
    have hgiven : given = messageId := by
      have hsame := hedits.messageId_eq
      rw [hid, Option.some.injEq] at hsame
      exact hsame.symm
    subst hgiven
    rcases List.mem_cons.1 hpost with hfirst | hlast
    · rw [hfirst] at hmethod
      cases hmethod
    · rw [List.mem_singleton] at hlast
      subst hlast
      exact ⟨channel, hedits, rfl, rfl⟩

/-- An edit that is sent has read the message at the same timestamp, in the channel of the task.
The channel that is written is the same exactly when the policy leaves it as it is, and has a number
sign in front otherwise. -/
theorem edit_addresses {task : Task} {messageId : Text} (hfile : task.uploadFile = none)
    (hid : task.messageId = some messageId) {dryRun : Bool} {world : World} {post : Request}
    (hpost : post ∈ (task.run dryRun world).calls) (hmethod : post.method = .post) :
    ∃ (look : Request) (channel written : Text),
      (task.run dryRun world).calls = [look, post] ∧ look.method = .get ∧
      task.channel = some channel ∧
      look.url = "https://slack.com/api/conversations.history?" ++ Text.formEncode
        [("channel", channel), ("ts", messageId), ("limit", "1"), ("inclusive", "true")] ∧
      post.body = some (.text (Json.object task.payload).compact) ∧
      task.payload.get? "channel" = some (.string written) ∧
      task.payload.get? "ts" = some (.string messageId) ∧
      (written = channel ∨ written = "#" ++ channel) ∧
      (written = channel ↔ task.prependHash = some .never ∨
        (task.prependHash ≠ some .always ∧ Message.IsReady channel)) := by
  have hconversation := (course_runMessage task dryRun world).conversation
  rw [calls_run, outcome_of_message hfile] at hpost ⊢
  obtain ⟨channel, hedits, hcalls, hbody⟩ := hconversation.post_of_edit hid hpost hmethod
  refine ⟨_, channel, Message.addressed task.policy channel, hcalls, rfl, hedits.channel_eq,
    Message.url_lookupRequest .., hbody, ?_, ?_, Message.addressed_eq_or .., ?_⟩
  · simp [payload, Message.Draft.get?_payload, draft, hedits.channel_eq]
  · simp [payload, Message.Draft.get?_payload, draft, hid]
  · rw [Message.addressed_eq_self_iff, policy]
    cases task.prependHash with
    | none => simp
    | some policy => cases policy <;> simp

/-- An edit in a channel that is named without a number sign, under the automatic policy. -/
def namedRecord : Members :=
  [("token", .string "xoxb-1"), ("msg", .string "hi"), ("channel", .string "general"),
    ("messageId", .string "1.5"), ("prependHash", .string "auto")]

def namedEdit : Task :=
  { plainEdit with channel := some "general", prependHash := some .auto }

def namedLook : Request := Message.lookupRequest "xoxb-1" "general" "1.5" false

def namedPost : Request :=
  Message.requestTo ⟨.webApi, Endpoint.updateMessage, jsonHeaders ++ [bearer "xoxb-1"]⟩
    namedEdit.sentText false

theorem calls_namedEdit :
    (namedEdit.run false answeringEdit).calls = [namedLook, namedPost] := by decide +kernel

theorem edit_addresses_of_namedEdit :
    ∃ post, post ∈ (namedEdit.run false answeringEdit).calls ∧ post.method = .post ∧
      ∃ (look : Request) (channel written : Text),
        (namedEdit.run false answeringEdit).calls = [look, post] ∧ look.method = .get ∧
        namedEdit.channel = some channel ∧
        look.url = "https://slack.com/api/conversations.history?" ++ Text.formEncode
          [("channel", channel), ("ts", "1.5"), ("limit", "1"), ("inclusive", "true")] ∧
        post.body = some (.text (Json.object namedEdit.payload).compact) ∧
        namedEdit.payload.get? "channel" = some (.string written) ∧
        namedEdit.payload.get? "ts" = some (.string "1.5") ∧
        (written = channel ∨ written = "#" ++ channel) ∧
        (written = channel ↔ namedEdit.prependHash = some .never ∨
          (namedEdit.prependHash ≠ some .always ∧ Message.IsReady channel)) := by
  have hpost : namedPost ∈ (namedEdit.run false answeringEdit).calls := by
    rw [calls_namedEdit]
    simp
  exact ⟨namedPost, hpost, rfl, edit_addresses rfl rfl hpost rfl⟩

/-- Under the automatic policy a channel named without a number sign is read under one name and
written under another. -/
theorem edit_addresses_differ :
    ¬ ∀ (record : Members) (task : Task) (messageId : Text) (dryRun : Bool) (world : World)
      (look post : Request), ofMembers record = .accepted task → task.uploadFile = none →
      task.messageId = some messageId → (task.run dryRun world).calls = [look, post] →
      post.method = .post →
      ∃ channel, look.url = "https://slack.com/api/conversations.history?" ++ Text.formEncode
          [("channel", channel), ("ts", messageId), ("limit", "1"), ("inclusive", "true")] ∧
        task.payload.get? "channel" = some (.string channel) ∧
        task.payload.get? "ts" = some (.string messageId) := by
  intro hclaim
  obtain ⟨channel, hurl, hchannel, -⟩ := hclaim namedRecord namedEdit "1.5" false answeringEdit
    namedLook namedPost rfl rfl rfl calls_namedEdit rfl
  have hwritten : namedEdit.payload.get? "channel" = some (.string "#general") := by
    decide +kernel
  rw [hwritten, Option.some.injEq, Json.string.injEq] at hchannel
  subst hchannel
  exact absurd hurl (by decide +kernel)

end Task

end SlackCourier
