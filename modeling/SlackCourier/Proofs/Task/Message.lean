import SlackCourier.Proofs.Task.Requests

/-!
# The course of a message

Before a message goes out its record alone decides what is done: the record is refused, or the
message is new, or the one that it edits is read.  So a preview is one request at most, and which
one it is does not depend on whether the run is a dry one.  What follows is the sending, which is
one request more, or nothing.
-/

namespace SlackCourier.Task

open Session

/-- What comes first: a refusal, nothing, or the reading of the message in a channel at a
timestamp. -/
def plan (task : Task) : Except Failure (Option (Text × Text)) :=
  if Message.isColor task.color then
    match task.messageId with
    | none => .ok none
    | some messageId => (task.channelFor .editing).map fun channel => some (channel, messageId)
  else .error .invalidColor

/-- Whether a task edits the message in a channel at a timestamp. -/
structure Edits (task : Task) (channel messageId : Text) : Prop where
  messageId_eq : task.messageId = some messageId
  isColor_eq : Message.isColor task.color = true
  channel_eq : task.channel = some channel
  channel_ne : channel ≠ ""

theorem channelFor_eq_ok_iff {task : Task} {purpose : Purpose} {channel : Text} :
    task.channelFor purpose = .ok channel ↔ task.channel = some channel ∧ channel ≠ "" := by
  unfold channelFor
  rw [← Text.given_eq_some_iff]
  cases Text.given task.channel <;> simp

theorem messageId_of_plan {task : Task} (h : task.plan = .ok none) : task.messageId = none := by
  unfold plan at h
  split_ifs at h
  cases hid : task.messageId with
  | none => rfl
  | some messageId =>
    rw [hid] at h
    cases hchannel : task.channelFor .editing <;> simp [hchannel, Except.map] at h

theorem edits_of_plan {task : Task} {channel messageId : Text}
    (h : task.plan = .ok (some (channel, messageId))) : task.Edits channel messageId := by
  unfold plan at h
  split_ifs at h with hcolor
  cases hid : task.messageId with
  | none => simp [hid] at h
  | some given =>
    rw [hid] at h
    cases hchannel : task.channelFor .editing with
    | error failure => simp [hchannel, Except.map] at h
    | ok found =>
      simp only [hchannel, Except.map, Except.ok.injEq, Option.some.injEq, Prod.mk.injEq] at h
      obtain ⟨rfl, rfl⟩ := h
      obtain ⟨hsome, hne⟩ := channelFor_eq_ok_iff.1 hchannel
      exact ⟨hid, hcolor, hsome, hne⟩

theorem plan_of_edits {task : Task} {channel messageId : Text}
    (h : task.Edits channel messageId) : task.plan = .ok (some (channel, messageId)) := by
  have hchannel : task.channelFor .editing = .ok channel :=
    channelFor_eq_ok_iff.2 ⟨h.channel_eq, h.channel_ne⟩
  simp [plan, h.isColor_eq, h.messageId_eq, hchannel, Except.map]

/-- The outcome that the message as it stands decides, if it decides one. -/
def verdict (task : Task) (channel : Text) (message : Members) (dryRun : Bool) : Option Outcome :=
  let ts := textOf message "ts"
  let shown := (textOf message "channel").getD channel
  if !task.changes message then some (.unchanged ts shown)
  else if dryRun then some (.wouldEdit ts shown)
  else none

theorem kind?_of_verdict {task : Task} {channel : Text} {message : Members} {dryRun : Bool}
    {outcome : Outcome} (h : task.verdict channel message dryRun = some outcome) :
    outcome.kind? = some ("unchanged" : Text) ∨ outcome.kind? = some ("dry-run" : Text) := by
  unfold verdict at h
  split_ifs at h
  · rw [← Option.some.inj h]
    exact Or.inl rfl
  · rw [← Option.some.inj h]
    exact Or.inr rfl

def readPreview (task : Task) (channel messageId : Text) (dryRun : Bool)
    (met : Except (Option Text) Response) : Except Fault (Option Outcome) :=
  (Message.readMessage messageId
    (Message.lookupRequest task.token channel messageId task.insecure).url met).bind fun message =>
      .ok (task.verdict channel message dryRun)

theorem readPreview_eq_ok {task : Task} {channel messageId : Text} {dryRun : Bool}
    {met : Except (Option Text) Response} {seen : Option Outcome}
    (h : task.readPreview channel messageId dryRun met = .ok seen) :
    ∃ message, Message.readMessage messageId
        (Message.lookupRequest task.token channel messageId task.insecure).url met = .ok message ∧
      task.verdict channel message dryRun = seen := by
  unfold readPreview at h
  cases hread : Message.readMessage messageId
      (Message.lookupRequest task.token channel messageId task.insecure).url met with
  | error fault => simp [hread, Except.bind] at h
  | ok message =>
    rw [hread] at h
    exact ⟨message, rfl, Except.ok.inj h⟩

/-- What the reading of the message in a channel at a timestamp comes to. -/
def sought (task : Task) (channel messageId : Text) (world : World) : Except Fault Members :=
  let q := Message.lookupRequest task.token channel messageId task.insecure
  Message.readMessage messageId q.url (world.answer q.url).1

theorem verdict_of_unchanged {task : Task} {message : Members}
    (h : task.changes message = false) (channel : Text) (dryRun : Bool) :
    task.verdict channel message dryRun = some (.unchanged (textOf message "ts")
      ((textOf message "channel").getD channel)) := by
  simp [verdict, h]

theorem verdict_of_changed {task : Task} {message : Members} (h : task.changes message = true)
    (channel : Text) : task.verdict channel message true = some (.wouldEdit (textOf message "ts")
      ((textOf message "channel").getD channel)) := by
  simp [verdict, h]

/-- A message decides nothing exactly when the task would change it and the run is no dry one. -/
theorem verdict_eq_none_iff {task : Task} {channel : Text} {message : Members} {dryRun : Bool} :
    task.verdict channel message dryRun = none ↔ task.changes message = true ∧ dryRun = false := by
  unfold verdict
  cases task.changes message <;> cases dryRun <;> simp

theorem preview_eq (task : Task) (dryRun : Bool) :
    task.preview dryRun = match task.plan with
      | .error failure => Session.fail (.failure failure)
      | .ok none => Pure.pure (if dryRun then some .wouldPost else none)
      | .ok (some (channel, messageId)) =>
        once (Message.lookupRequest task.token channel messageId task.insecure)
          (task.readPreview channel messageId dryRun) := by
  unfold preview plan
  cases hcolor : Message.isColor task.color with
  | false => rfl
  | true =>
    cases hid : task.messageId with
    | none => rfl
    | some messageId =>
      simp only [Bool.not_true, Bool.false_eq_true, if_false, if_true]
      unfold previewEdit
      cases hchannel : task.channelFor .editing with
      | error failure => rfl
      | ok channel =>
        simp only [mapError_ok, lift_ok, pure_bind, Except.map, Message.find_eq_once]
        have hverdict : ∀ message : Members,
            (if !task.changes message then
              Pure.pure (some (.unchanged (textOf message "ts")
                ((textOf message "channel").getD channel)))
            else if dryRun then
              Pure.pure (some (.wouldEdit (textOf message "ts")
                ((textOf message "channel").getD channel)))
            else Pure.pure none : Session Fault (Option Outcome)) =
              Session.lift (.ok (task.verdict channel message dryRun)) := by
          intro message
          unfold verdict
          split_ifs <;> rfl
        simp only [hverdict]
        exact once_bind_lift ..

theorem runMessage_of_refused {task : Task} {failure : Failure} (h : task.plan = .error failure)
    (dryRun : Bool) : task.runMessage dryRun = Session.fail (.failure failure) := by
  unfold runMessage
  rw [preview_eq, h]
  rfl

theorem runMessage_of_new {task : Task} (h : task.plan = .ok none) (dryRun : Bool) :
    task.runMessage dryRun = if dryRun then Pure.pure .wouldPost else task.sendMessage := by
  unfold runMessage
  rw [preview_eq, h]
  cases dryRun <;> rfl

section

variable {task : Task} {channel messageId : Text} {world : World}

theorem result_readPreview (task : Task) (channel messageId : Text) (dryRun : Bool)
    (world : World) :
    (once (Message.lookupRequest task.token channel messageId task.insecure)
      (task.readPreview channel messageId dryRun) world).result =
        (task.sought channel messageId world).bind fun message =>
          .ok (task.verdict channel message dryRun) := rfl

theorem runMessage_of_unread (h : task.plan = .ok (some (channel, messageId))) {fault : Fault}
    (hread : task.sought channel messageId world = .error fault) (dryRun : Bool) :
    let q := Message.lookupRequest task.token channel messageId task.insecure
    task.runMessage dryRun world = ⟨.error fault, [.request q], (world.answer q.url).2⟩ := by
  have hfirst := result_readPreview task channel messageId dryRun world
  rw [hread] at hfirst
  unfold runMessage
  rw [preview_eq, h]
  exact bind_error hfirst

theorem runMessage_of_decided (h : task.plan = .ok (some (channel, messageId)))
    {message : Members} (hread : task.sought channel messageId world = .ok message) {dryRun : Bool}
    {outcome : Outcome} (hverdict : task.verdict channel message dryRun = some outcome) :
    let q := Message.lookupRequest task.token channel messageId task.insecure
    task.runMessage dryRun world = ⟨.ok outcome, [.request q], (world.answer q.url).2⟩ := by
  have hfirst := result_readPreview task channel messageId dryRun world
  simp only [hread, Except.bind, hverdict] at hfirst
  unfold runMessage
  rw [preview_eq, h]
  exact bind_ok hfirst

theorem runMessage_of_undecided (h : task.plan = .ok (some (channel, messageId)))
    {message : Members} (hread : task.sought channel messageId world = .ok message) {dryRun : Bool}
    (hverdict : task.verdict channel message dryRun = none) :
    let q := Message.lookupRequest task.token channel messageId task.insecure
    let sent := task.sendMessage (world.answer q.url).2
    task.runMessage dryRun world = ⟨sent.result, .request q :: sent.trace, sent.world⟩ := by
  have hfirst := result_readPreview task channel messageId dryRun world
  simp only [hread, Except.bind, hverdict] at hfirst
  unfold runMessage
  rw [preview_eq, h]
  exact bind_ok hfirst

end

/-- What a sent message comes to rests on an answer with status 200.  That of the Web API is an
object, and decides; that of a webhook is not looked at. -/
theorem readSent_eq_ok_iff {task : Task} {target : Target} {met : Except (Option Text) Response}
    {outcome : Outcome} : task.readSent target met = .ok outcome ↔
      ∃ response, met = .ok response ∧ response.status = okStatus ∧
        ((target.protocol = .webApi ∧ ∃ answer, response.object = .ok answer ∧
            sentOutcome task.payload answer = .ok outcome) ∨
          (target.protocol ≠ .webApi ∧ outcome = .webhook)) := by
  have hwebhook : sentOutcome task.payload Message.webhookAnswer = .ok .webhook := rfl
  unfold readSent Message.readDelivery
  cases hmet : received target.shownUrl target.url met with
  | error fault =>
    have hnone : ∀ response, met ≠ .ok response := by
      rintro response rfl
      cases hmet
    simp [Except.bind, hnone]
  | ok response =>
    rw [received_eq_ok_iff] at hmet
    subst hmet
    simp only [Except.bind, Message.outcomeAt, Except.ok.injEq, exists_eq_left']
    by_cases hstatus : response.status = okStatus
    · cases hprotocol : target.protocol with
      | webApi => cases hobject : response.object <;> simp [hstatus]
      | webhook => simp [hstatus, hwebhook, eq_comm]
      | legacyWebhook => simp [hstatus, hwebhook, eq_comm]
    · cases hreject : Message.rejection response <;> simp [hstatus]

theorem kind?_of_readSent {task : Task} {target : Target} {met : Except (Option Text) Response}
    {outcome : Outcome} (h : task.readSent target met = .ok outcome) :
    outcome.kind? = some ("message" : Text) ∨ outcome.kind? = some ("webhook" : Text) := by
  obtain ⟨response, -, -, ⟨-, answer, -, hsent⟩ | ⟨-, rfl⟩⟩ := readSent_eq_ok_iff.1 h
  · unfold sentOutcome at hsent
    split at hsent
    · rw [← Except.ok.inj hsent]
      exact Or.inr rfl
    · rw [← Except.ok.inj hsent]
      exact Or.inl rfl
    · cases hsent
  · exact Or.inr rfl

theorem warnings_of_run {task : Task} {dryRun : Bool} {world : World} {report : Report}
    (h : (task.run dryRun world).result = .ok report) : report.warnings = task.warnings := by
  rw [run_apply] at h
  unfold told at h
  split at h
  · rw [← Except.ok.inj h]
  · rw [← Except.ok.inj h]
  · cases h

theorem outcome_of_run {task : Task} {dryRun : Bool} {world : World} {report : Report}
    (h : (task.run dryRun world).result = .ok report) :
    (task.outcome dryRun world).result = .ok report.outcome ∨
      ∃ failure, (task.outcome dryRun world).result = .error (.failure failure) ∧
        report.outcome = .failed failure := by
  rw [run_apply] at h
  unfold told at h
  split at h
  · rename_i outcome houtcome
    rw [← Except.ok.inj h]
    exact Or.inl houtcome
  · rename_i failure hfailure
    rw [← Except.ok.inj h]
    exact Or.inr ⟨failure, hfailure, rfl⟩
  · cases h

end SlackCourier.Task
