import SlackCourier.Message.Quotes
import SlackCourier.Text.Hex

/-!
# Message payloads

What a message says and where, and the members of the JSON object that is sent for it.  Parts that
are not given are left out.  Text with a color other than `normal` travels as an attachment of its
own, ahead of the attachments given.
-/

namespace SlackCourier.Message

def namedColors : List Text := ["normal", "good", "warning", "danger"]

def plainColor : Text := "normal"

/-- Whether a color is a number sign and three or six hexadecimal digits. -/
def isHexColor (color : Text) : Bool :=
  match color.chars with
  | '#' :: digits =>
    (digits.length == 3 || digits.length == 6) && digits.all fun c => (Text.hexValue? c).isSome
  | _ => false

def isColor (color : Text) : Bool := namedColors.contains color || isHexColor color

/-- When a channel gets a number sign in front. -/
inductive HashPolicy where
  | always
  | never
  | auto
  deriving DecidableEq, Repr

def HashPolicy.name : HashPolicy → Text
  | .always => "always"
  | .never => "never"
  | .auto => "auto"

inductive ParseMode where
  | full
  | none
  deriving DecidableEq, Repr

def ParseMode.name : ParseMode → Text
  | .full => "full"
  | .none => "none"

/-- The beginnings of channel names and ids that need no number sign. -/
def readyStarts : List Text := ["#", "@", "C0", "GF", "G0", "CP"]

/-- A channel with a number sign in front, as the policy has it. -/
def addressed (policy : HashPolicy) (channel : Text) : Text :=
  match policy with
  | .always => "#" ++ channel
  | .never => channel
  | .auto =>
    if readyStarts.any fun start => channel.startsWith start then channel
    else "#" ++ channel

/-- The parts of a message. -/
structure Draft where
  text : Option Text
  channel : Option Text
  threadId : Option Text
  username : Option Text
  iconUrl : Option Text
  /-- The emoji shown for the sender; it wins over a picture. -/
  iconEmoji : Option Text
  linkNames : Option Double
  parse : Option ParseMode
  color : Option Text
  attachments : Option (List Members)
  blocks : Option (List Members)
  messageId : Option Text
  policy : HashPolicy

def attachmentKeys : List Text := ["title", "text", "author_name", "pretext", "fallback"]

def blockKeys : List Text := ["text", "alt_text"]

def escapeAttachmentTexts (attachment : Members) : Members :=
  attachment.map fun (k, v) => (k, if attachmentKeys.contains k then escapeString v else v)

/-- An attachment as it is sent: its text serves as its fallback where it has none. -/
def sentAttachment (attachment : Members) : Members :=
  let escaped := escapeAttachmentTexts attachment
  match escaped.get? "fallback", escaped.get? "text" with
  | none, some text => escaped ++ Members.single "fallback" text
  | _, _ => escaped

def sentBlock (block : Members) : Members := escapeMembers blockKeys block

namespace Draft

def isColored (draft : Draft) : Bool := draft.color.getD plainColor != plainColor

def textAttachment (color text : Text) : Members :=
  [("text", .string (escapeQuotes text)), ("color", .string color),
    ("mrkdwn_in", .list [.string "text"])]

/-- The attachment for the text, if the text has a color bar. -/
def coloredText? (draft : Draft) : Option Members :=
  if draft.isColored then draft.text.map (textAttachment (draft.color.getD plainColor)) else none

def plainText? (draft : Draft) : Option Text := if draft.isColored then none else draft.text

/-- The list of attachments that is sent, the colored text first. -/
def attachmentList (draft : Draft) : Json :=
  .list ((draft.coloredText?.toList ++ (draft.attachments.getD []).map sentAttachment).map .object)

/-- The icon: the emoji if there is one, else the picture. -/
def icon (draft : Draft) : Members :=
  match draft.iconEmoji with
  | some emoji => [("icon_emoji", .string emoji)]
  | none => Members.optional "icon_url" (draft.iconUrl.map .string)

/-- The members of a payload as they are written, one after the other.  A colored text is written as
the only attachment, and the attachments given are added to it where they come. -/
def writes (draft : Draft) : Members :=
  Members.optional "text" (draft.plainText?.map fun text => .string (escapeQuotes text)) ++
    Members.optional "attachments" (draft.coloredText?.map fun first => .list [.object first]) ++
    Members.optional "channel"
      (draft.channel.map fun channel => .string (addressed draft.policy channel)) ++
    Members.optional "thread_ts" (draft.threadId.map .string) ++
    Members.optional "username" (draft.username.map .string) ++
    draft.icon ++
    Members.optional "link_names" (draft.linkNames.map .number) ++
    Members.optional "parse" (draft.parse.map fun mode => .string mode.name) ++
    Members.optional "ts" (draft.messageId.map .string) ++
    Members.optional "attachments" (draft.attachments.map fun _ => draft.attachmentList) ++
    Members.optional "blocks"
      (draft.blocks.map fun blocks => .list (blocks.map fun block => .object (sentBlock block)))

/-- The members of the payload.  What is written twice keeps its first place. -/
def payload (draft : Draft) : Members := Members.ofPairs draft.writes

end Draft

end SlackCourier.Message
