import SlackCourier.Exchange.Request
import SlackCourier.Failure
import SlackCourier.Text.Blank

/-!
# Tokens and where they lead

The shape of a token alone says which protocol it speaks: two slashes make the path of an incoming
webhook, `xoxa-`, `xoxb-` or `xoxp-` begins a Web API token, and everything else is a webhook of the
old kind, which also needs the domain of its workspace.  The URL of a webhook holds the token, so
error texts show a fixed text in its place.
-/

namespace SlackCourier

inductive Protocol where
  | webhook
  | webApi
  | legacyWebhook
  deriving DecidableEq, Repr

def Protocol.name : Protocol → Text
  | .webhook => "webhook"
  | .webApi => "webapi"
  | .legacyWebhook => "legacy-webhook"

/-- Whether a token has the form of a Web API token: its beginning, and then at least one character,
none of them blank. -/
def isWebApiToken (token : Text) : Bool :=
  match token.chars with
  | 'x' :: 'o' :: 'x' :: kind :: '-' :: rest =>
    (kind == 'a' || kind == 'b' || kind == 'p') && rest != [] &&
      rest.all fun c => !Text.isBlank c
  | _ => false

/-- The protocol of a token; the slashes decide first. -/
def classify (token : Text) : Protocol :=
  if 2 ≤ token.units.count (Text.unit '/') then .webhook
  else if isWebApiToken token then .webApi
  else .legacyWebhook

namespace Endpoint

def webhooks : Text := "https://hooks.slack.com/services/"

def postMessage : Text := "https://slack.com/api/chat.postMessage"

def updateMessage : Text := "https://slack.com/api/chat.update"

def history : Text := "https://slack.com/api/conversations.history"

def channels : Text := "https://slack.com/api/conversations.list"

def startUpload : Text := "https://slack.com/api/files.getUploadURLExternal"

def completeUpload : Text := "https://slack.com/api/files.completeUploadExternal"

def obscured : Text := webhooks ++ "[obscured]"

def webhook (token : Text) : Text := webhooks ++ token

def legacyWebhook (domain token : Text) : Text :=
  "https://" ++ domain ++ "/services/hooks/incoming-webhook?token=" ++ token

end Endpoint

def bearer (token : Text) : Text × Text := ("Authorization", "Bearer " ++ token)

def jsonHeaders : List (Text × Text) :=
  [("Content-Type", "application/json; charset=UTF-8"), ("Accept", "application/json")]

structure Target where
  protocol : Protocol
  url : Text
  headers : List (Text × Text)
  deriving DecidableEq, Repr

/-- The target for a token.  A Web API message that names a timestamp edits in place. -/
def Target.of (token : Text) (edits : Bool) (domain : Option Text) : Except Failure Target :=
  match classify token with
  | .webhook => .ok ⟨.webhook, Endpoint.webhook token, jsonHeaders⟩
  | .webApi =>
    .ok ⟨.webApi, if edits then Endpoint.updateMessage else Endpoint.postMessage,
      jsonHeaders ++ [bearer token]⟩
  | .legacyWebhook =>
    match Text.given domain with
    | none => .error .domainRequired
    | some domain => .ok ⟨.legacyWebhook, Endpoint.legacyWebhook domain token, jsonHeaders⟩

theorem Target.of_webApi {token : Text} (h : classify token = .webApi) (edits : Bool)
    (domain : Option Text) : Target.of token edits domain = .ok ⟨.webApi,
      if edits then Endpoint.updateMessage else Endpoint.postMessage,
      jsonHeaders ++ [bearer token]⟩ := by
  unfold Target.of
  rw [h]

def Target.shownUrl (target : Target) : Text :=
  match target.protocol with
  | .webApi => target.url
  | .webhook | .legacyWebhook => Endpoint.obscured

end SlackCourier
