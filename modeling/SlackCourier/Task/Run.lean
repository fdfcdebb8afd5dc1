import SlackCourier.Message.Delivery
import SlackCourier.Message.Lookup
import SlackCourier.Task.Edit
import SlackCourier.Task.Report

/-!
# Running a task

A task with a file uploads it; any other task posts a message, or edits one when it names a
timestamp.  An edit first reads the message, and ends there when nothing would change.  A dry run
reads as the real run does and stops before anything is written.  Every failure that was foreseen
becomes a report; a mishap does not.
-/

namespace SlackCourier.Task

/-- The notice that the policy for the number sign was left open. -/
def hashNotice : Text :=
  "The default value 'auto' for 'prependHash' is deprecated and will change to 'never'. " ++
    "Set 'prependHash' explicitly to avoid this warning."

def policy (task : Task) : Message.HashPolicy := task.prependHash.getD .auto

/-- The warnings that a task raises: a message whose policy for the number sign is left open raises
one, a file none. -/
def warnings (task : Task) : List Text :=
  if task.uploadFile.isNone ∧ task.prependHash.isNone then [hashNotice] else []

/-- Whether the requests of a task leave certificates unchecked. -/
def insecure (task : Task) : Bool := !task.validateCerts

def draft (task : Task) : Message.Draft :=
  { text := task.msg
    channel := task.channel
    threadId := task.threadId
    username := task.username
    iconUrl := task.iconUrl
    iconEmoji := task.iconEmoji
    linkNames := some task.linkNames
    parse := task.parse
    color := some task.color
    attachments := task.attachments
    blocks := task.blocks
    messageId := task.messageId
    policy := task.policy }

def payload (task : Task) : Members := task.draft.payload

/-- The channel of a task; an empty one is none. -/
def channelFor (task : Task) (purpose : Purpose) : Except Failure Text :=
  match Text.given task.channel with
  | some channel => .ok channel
  | none => .error (.channelRequired purpose)

def textOf (members : Members) (name : Text) : Option Text :=
  (members.lookup name).bind Json.text?

def runUpload (task : Task) (upload : Upload) (dryRun : Bool) : Session Failure Outcome := do
  let channel ← Session.lift (task.channelFor .uploading)
  if dryRun then return .wouldUpload
  let answer ← upload.run task.token channel task.insecure
  return .uploaded answer

/-- What the answer to a sent message comes to.  An answer without a verdict is that of a
webhook. -/
def sentOutcome (payload : Members) (answer : Members) : Except Failure Outcome :=
  match answer.get? "ok" with
  | none => .ok .webhook
  | some (.bool true) =>
    .ok (.message (textOf answer "ts") (textOf answer "channel") answer
      (Json.object payload).compact)
  | some _ => .error (.messageRefused (errorWord? answer))

def sendMessage (task : Task) : Session Fault Outcome := do
  let answer ← Message.deliver task.token task.domain task.payload task.insecure
  Session.lift ((sentOutcome task.payload answer).mapError .failure)

/-- Reads the message that a task edits.  The outcome is there already when nothing would change or
in a dry run. -/
def previewEdit (task : Task) (messageId : Text) (dryRun : Bool) :
    Session Fault (Option Outcome) := do
  let channel ← Session.lift ((task.channelFor .editing).mapError .failure)
  let message ← Message.find task.token channel messageId task.insecure
  let ts := textOf message "ts"
  let shown := (textOf message "channel").getD channel
  if !task.changes message then return some (.unchanged ts shown)
  else if dryRun then return some (.wouldEdit ts shown)
  else return none

/-- What is known of a message before it is sent: the outcome if nothing is to be sent. -/
def preview (task : Task) (dryRun : Bool) : Session Fault (Option Outcome) := do
  if !Message.isColor task.color then Session.fail (.failure .invalidColor)
  else match task.messageId with
    | some messageId => task.previewEdit messageId dryRun
    | none => return if dryRun then some .wouldPost else none

def runMessage (task : Task) (dryRun : Bool) : Session Fault Outcome := do
  match ← task.preview dryRun with
  | some outcome => return outcome
  | none => task.sendMessage

/-- The outcome of a task, failures as errors. -/
def outcome (task : Task) (dryRun : Bool) : Session Fault Outcome :=
  match task.uploadFile with
  | some upload => (task.runUpload upload dryRun).mapError .failure
  | none => task.runMessage dryRun

def run (task : Task) (dryRun : Bool) : Session Mishap Report := do
  match ← (task.outcome dryRun).attempt with
  | .ok outcome => return ⟨outcome, task.warnings⟩
  | .error (.failure failure) => return ⟨.failed failure, task.warnings⟩
  | .error (.mishap mishap) => Session.fail mishap

end SlackCourier.Task
