import SlackCourier.Message.Payload
import SlackCourier.Upload
import SlackCourier.Validation

/-!
# Task records

What a caller may ask for, as a validated record: a message to post or to edit, or a file to upload.
Fields that the record does not know are passed over, missing ones get their defaults, and a record
written out again is accepted with the same values.
-/

namespace SlackCourier

/-- A validated task. -/
structure Task where
  token : Text
  /-- The workspace domain, for tokens of the old kind. -/
  domain : Option Text
  msg : Option Text
  channel : Option Text
  threadId : Option Text
  messageId : Option Text
  username : Option Text
  iconUrl : Option Text
  iconEmoji : Option Text
  /-- Whether names in the text become links: zero or one. -/
  linkNames : Double
  parse : Option Message.ParseMode
  validateCerts : Bool
  color : Text
  attachments : Option (List Members)
  blocks : Option (List Members)
  prependHash : Option Message.HashPolicy
  /-- A file to upload; it takes precedence over a message. -/
  uploadFile : Option Upload
  deriving DecidableEq, Repr

def Upload.check : Check Upload := Check.present fun
  | .object members =>
    Checked.toField <|
      Checked.accepted Upload.mk
        |>.field members "path" (Check.textOfAtLeast 1 (Check.tooShort 1))
        |>.field members "filename" (Check.optional Check.text)
        |>.field members "altText" (Check.optional Check.text)
        |>.field members "snippetType" (Check.optional Check.text)
        |>.field members "initialComment" (Check.optional Check.text)
        |>.field members "threadTs" (Check.optional Check.text)
        |>.field members "title" (Check.optional Check.text)
  | value => .error [Check.wrongKind "object" value]

namespace Task

/-- The check for zero or one, of either sign. -/
def checkLinkNames : Check Double := Check.present fun
  | .number d =>
    if d.sameValue Double.zero || d.sameValue (Double.ofNat 1) then .ok d
    else .error ["Invalid input"]
  | _ => .error ["Invalid input"]

def parseModes : List (Text × Message.ParseMode) :=
  [Message.ParseMode.full, .none].map fun mode => (mode.name, mode)

def hashPolicies : List (Text × Message.HashPolicy) :=
  [Message.HashPolicy.always, .never, .auto].map fun policy => (policy.name, policy)

def ofMembers (members : Members) : Checked Task :=
  Checked.accepted Task.mk
    |>.field members "token" (Check.textOfAtLeast 1 "token is required")
    |>.field members "domain" (Check.optional Check.text)
    |>.field members "msg" (Check.optional Check.text)
    |>.field members "channel" (Check.optional Check.text)
    |>.field members "threadId" (Check.optional Check.text)
    |>.field members "messageId" (Check.optional Check.text)
    |>.field members "username" (Check.optional Check.text)
    |>.field members "iconUrl" (Check.optional Check.text)
    |>.field members "iconEmoji" (Check.optional Check.text)
    |>.field members "linkNames" (Check.withDefault (Double.ofNat 1) checkLinkNames)
    |>.field members "parse" (Check.optional (Check.choice parseModes))
    |>.field members "validateCerts" (Check.withDefault true Check.truth)
    |>.field members "color" (Check.withDefault Message.plainColor Check.text)
    |>.field members "attachments" (Check.optional (Check.listOf Check.object))
    |>.field members "blocks" (Check.optional (Check.listOf Check.object))
    |>.field members "prependHash" (Check.optional (Check.choice hashPolicies))
    |>.field members "uploadFile" (Check.optional Upload.check)

def ofJson : Option Json → Except Refusal Task
  | none => .error (Refusal.ofForm Check.required)
  | some (.object members) => (ofMembers members).toRecord
  | some value => .error (Refusal.ofForm (Check.wrongKind "object" value))

def trees (list : List Members) : Json := .list (list.map .object)

end Task

def Upload.members (upload : Upload) : Members :=
  Members.single "path" (.string upload.path) ++
    Members.optional "filename" (upload.filename.map .string) ++
    Members.optional "altText" (upload.altText.map .string) ++
    Members.optional "snippetType" (upload.snippetType.map .string) ++
    Members.optional "initialComment" (upload.initialComment.map .string) ++
    Members.optional "threadTs" (upload.threadTs.map .string) ++
    Members.optional "title" (upload.title.map .string)

/-- The members of a task, in the order of the record. -/
def Task.members (task : Task) : Members :=
  Members.single "token" (.string task.token) ++
    Members.optional "domain" (task.domain.map .string) ++
    Members.optional "msg" (task.msg.map .string) ++
    Members.optional "channel" (task.channel.map .string) ++
    Members.optional "threadId" (task.threadId.map .string) ++
    Members.optional "messageId" (task.messageId.map .string) ++
    Members.optional "username" (task.username.map .string) ++
    Members.optional "iconUrl" (task.iconUrl.map .string) ++
    Members.optional "iconEmoji" (task.iconEmoji.map .string) ++
    Members.single "linkNames" (.number task.linkNames) ++
    Members.optional "parse" (task.parse.map fun mode => .string mode.name) ++
    Members.single "validateCerts" (.bool task.validateCerts) ++
    Members.single "color" (.string task.color) ++
    Members.optional "attachments" (task.attachments.map trees) ++
    Members.optional "blocks" (task.blocks.map trees) ++
    Members.optional "prependHash" (task.prependHash.map fun policy => .string policy.name) ++
    Members.optional "uploadFile" (task.uploadFile.map fun upload => .object upload.members)

end SlackCourier
