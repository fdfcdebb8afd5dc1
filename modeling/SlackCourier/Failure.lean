import SlackCourier.Json.Plain
import SlackCourier.Json.Printer
import SlackCourier.Text.Units

/-!
# Failures

Every way in which a task can fail that was foreseen, as a cause, with its class, its wording, and
the status or the error word that it reports.  A fault is a failure or a mishap, which nobody
foresaw; an upload foresees mishaps too.
-/

namespace SlackCourier

inductive FailureCode where
  | config
  | transport
  | protocol
  | api
  | data
  | upload
  deriving DecidableEq, Repr

def FailureCode.name : FailureCode → Text
  | .config => "CONFIG_ERROR"
  | .transport => "TRANSPORT_ERROR"
  | .protocol => "PROTOCOL_ERROR"
  | .api => "API_ERROR"
  | .data => "DATA_ERROR"
  | .upload => "UPLOAD_ERROR"

inductive Purpose where
  | editing
  | uploading
  deriving DecidableEq, Repr

def Purpose.words : Purpose → Text
  | .editing => "edit a message"
  | .uploading => "upload a file"

inductive Step where
  | readingMessage
  | listingChannels
  | requestingUpload
  | sendingBytes
  | completingUpload
  deriving DecidableEq, Repr

def Step.complaint : Step → Text
  | .readingMessage => "failed to get slack message"
  | .listingChannels => "Failed to retrieve channels"
  | .requestingUpload => "Error retrieving upload URL"
  | .sendingBytes => "Error during file upload"
  | .completingUpload => "Error during upload completion"

/-- Something that nobody foresaw. -/
inductive Mishap where
  | bodyRefused (reason : Text)
  /-- The reason that a request got no response, or that a body cannot be read, has no words. -/
  | wordless
  deriving DecidableEq, Repr

def Mishap.message : Mishap → Text
  | .bodyRefused reason => reason
  | .wordless => Json.wordlessComplaint

/-- A failure that was foreseen. -/
inductive Failure where
  /-- A token of the old kind was given without a workspace domain. -/
  | domainRequired
  | channelRequired (purpose : Purpose)
  | invalidColor
  | noResponse (label reason : Text)
  | unreadable (reason : Text)
  | badStatus (step : Step) (status : Double) (statusText : Text)
  | notDelivered (payload shownUrl reason : Text) (status : Double)
  | invalidJson (body : Text)
  | notObject (body : Text)
  | noMessageList
  | messageNotObject
  /-- The answer to an upload request lacks the URL or the file's id. -/
  | noUploadTarget
  | historyRefused (answer : Members)
  | channelsRefused (error : Option Text)
  | uploadRefused (error : Option Text)
  | completionRefused (answer : Members)
  | messageRefused (error : Option Text)
  | noMessage (ts : Text)
  | severalMessages (ts : Text)
  | noChannel (name : Text)
  | fileMissing (path : Text)
  | fileUnreadable (path : Text)
  | upload (cause : Failure)
  | uploadBroken (cause : Mishap)
  deriving Repr

/-- The error word in an answer, if it has one that is a string. -/
def errorWord? (answer : Members) : Option Text := (answer.get? "error").bind Json.text?

def describeStatus (status : Double) (statusText : Text) : Text :=
  let words : Text := if statusText = "" then "Unknown error" else statusText
  words ++ " (HTTP " ++ status.text ++ ")"

/-- How much of a body an error quotes, in 16-bit units. -/
def excerptUnits : Nat := 200

def excerpt (body : Text) : Text := body.take excerptUnits

namespace Failure

def code : Failure → FailureCode
  | domainRequired | channelRequired _ | invalidColor => .config
  | noResponse .. | unreadable _ | badStatus .. | notDelivered .. => .transport
  | invalidJson _ | notObject _ | noMessageList | messageNotObject | noUploadTarget => .protocol
  | historyRefused _ | channelsRefused _ | uploadRefused _ | completionRefused _
  | messageRefused _ => .api
  | noMessage _ | severalMessages _ | noChannel _ | fileMissing _ | fileUnreadable _ => .data
  | upload _ | uploadBroken _ => .upload

def message : Failure → Text
  | domainRequired =>
    "Slack has updated its webhook API. " ++
      "You need to specify a token of the form XXXX/YYYY/ZZZZ"
  | channelRequired purpose => "channel is required to " ++ purpose.words
  | invalidColor =>
    "Color value specified should be either one of normal, good, warning, danger " ++
      "or any valid hex value with length 3 or 6."
  | noResponse label reason => "Request to " ++ label ++ " failed: " ++ reason
  | unreadable reason => "Failed to read the Slack API response: " ++ reason
  | badStatus step status statusText => step.complaint ++ ": " ++ describeStatus status statusText
  | notDelivered payload shownUrl reason _ =>
    "failed to send " ++ payload ++ " to " ++ shownUrl ++ ": " ++ reason
  | invalidJson body => "The Slack API response is not valid JSON: " ++ excerpt body
  | notObject body => "The Slack API response is not a JSON object: " ++ excerpt body
  | noMessageList => "conversations.history response has no messages list"
  | messageNotObject => "conversations.history returned a message that is not an object"
  | noUploadTarget => "files.getUploadURLExternal response is missing upload_url or file_id"
  | historyRefused answer => "failed to get slack message: " ++ (Json.object answer).compact
  | channelsRefused error => "Slack API error: " ++ error.getD "Unknown error"
  | uploadRefused error => "Failed to retrieve upload URL: " ++ error.getD "Unknown error"
  | completionRefused answer => "Failed to complete the upload: " ++ (Json.object answer).compact
  | messageRefused _ => "Slack API error"
  | noMessage ts => "no messages matching ts: " ++ ts
  | severalMessages ts => "more than 1 message matching ts: " ++ ts
  | noChannel name => "Channel named '" ++ name ++ "' not found."
  | fileMissing path => "File not found: " ++ path
  | fileUnreadable path => "The file " ++ path ++ " is not found."
  | upload cause => "Error uploading file: " ++ cause.message
  | uploadBroken cause => "Error uploading file: " ++ cause.message

/-- The status that is reported where there was no response. -/
def noStatus : Double := Double.ofInt (-1)

def status? : Failure → Option Double
  | noResponse .. | unreadable _ => some noStatus
  | badStatus _ status _ => some status
  | notDelivered _ _ _ status => some status
  | _ => none

def error? : Failure → Option Text
  | historyRefused answer | completionRefused answer => errorWord? answer
  | channelsRefused error | uploadRefused error | messageRefused error => error
  | _ => none

end Failure

/-- Why a task gave no report: a failure, or a mishap. -/
inductive Fault where
  | failure (failure : Failure)
  | mishap (mishap : Mishap)
  deriving Repr

def Fault.message : Fault → Text
  | .failure cause => cause.message
  | .mishap cause => cause.message

def Failure.ofUpload : Fault → Failure
  | .failure failure => .upload failure
  | .mishap mishap => .uploadBroken mishap

@[simp] theorem Failure.code_ofUpload (fault : Fault) :
    (Failure.ofUpload fault).code = .upload := by
  cases fault <;> rfl

@[simp] theorem Failure.message_ofUpload (fault : Fault) :
    (Failure.ofUpload fault).message = "Error uploading file: " ++ fault.message := by
  cases fault <;> rfl

end SlackCourier
