import SlackCourier.Channel

/-!
# Uploading a file

A file is uploaded in steps: its size is taken, an address and a file id are asked for, the bytes
are posted to that address, the channel is looked up, and the upload is completed under the file's
id.  A fault at any step, foreseen or not, ends the upload and is told as a failure of the upload.
-/

namespace SlackCourier

/-- A file to upload, and what is said about it. -/
structure Upload where
  path : Text
  /-- The name shown; the last name of the path if there is none. -/
  filename : Option Text
  altText : Option Text
  snippetType : Option Text
  initialComment : Option Text
  threadTs : Option Text
  title : Option Text
  deriving DecidableEq, Repr

structure UploadTicket where
  url : Text
  fileId : Text
  deriving DecidableEq, Repr

namespace Upload

def shownName (upload : Upload) : Text := upload.filename.getD (File.baseName upload.path)

def startQuery (upload : Upload) (length : Nat) : List (Text × Text) :=
  ("filename", upload.shownName) :: ("length", toString length) ::
    (Text.parameter "alt_text" (Text.given upload.altText) ++
      Text.parameter "snippet_type" (Text.given upload.snippetType))

def startRequest (upload : Upload) (token : Text) (length : Nat) (insecure : Bool) : Request :=
  { method := .get
    url := Endpoint.startUpload ++ "?" ++ Text.formEncode (upload.startQuery length)
    headers := [bearer token, ("Content-Type", "application/x-www-form-urlencoded")]
    body := none
    insecure := insecure }

def bytesRequest (ticket : UploadTicket) (content : Text.Bytes) (insecure : Bool) : Request :=
  { method := .post
    url := ticket.url
    headers := [("Content-Type", "application/octet-stream")]
    body := some (.bytes content)
    insecure := insecure }

/-- What completes an upload: the file with its title, the channel, and what goes with it. -/
def completion (upload : Upload) (fileId channelId : Text) : Members :=
  let file : Members :=
    ("id", .string fileId) :: Members.optional "title" ((Text.given upload.title).map .string)
  Members.single "files" (.list [.object file]) ++
    Members.single "channel_id" (.string channelId) ++
    Members.optional "initial_comment" ((Text.given upload.initialComment).map .string) ++
    Members.optional "thread_ts" ((Text.given upload.threadTs).map .string)

def completionRequest (upload : Upload) (token fileId channelId : Text) (insecure : Bool) :
    Request :=
  { method := .post
    url := Endpoint.completeUpload
    headers := [bearer token, ("Content-Type", "application/json")]
    body := some (.text (Json.object (upload.completion fileId channelId)).compact)
    insecure := insecure }

def ticketOf (answer : Members) : Except Failure UploadTicket :=
  if isOk answer then
    let url? := (answer.get? "upload_url").bind Json.text?
    let fileId? := (answer.get? "file_id").bind Json.text?
    match url?, fileId? with
    | some url, some fileId => .ok ⟨url, fileId⟩
    | _, _ => .error .noUploadTarget
  else .error (.uploadRefused (errorWord? answer))

/-- The answer to the last step, if all is well. -/
def completed (answer : Members) : Except Failure Members :=
  if isOk answer then .ok answer else .error (.completionRefused answer)

def measure (path : Text) : Session Fault Nat := do
  match ← Session.look path fun tree directory => tree.size directory path with
  | .ok length => return length
  | .error _ => Session.fail (.failure (.fileMissing path))

def content (path : Text) : Session Fault Text.Bytes := do
  match ← Session.look path fun tree directory => tree.read directory path with
  | .ok bytes => return bytes
  | .error _ => Session.fail (.failure (.fileUnreadable path))

def steps (upload : Upload) (token channel : Text) (insecure : Bool) :
    Session Fault Members := do
  let length ← measure upload.path
  let started ← call .requestingUpload "files.getUploadURLExternal"
    (upload.startRequest token length insecure)
  let ticket ← Session.lift ((ticketOf started).mapError .failure)
  let bytes ← content upload.path
  let _ ← sendFor .sendingBytes "file upload URL" (bytesRequest ticket bytes insecure)
  let channelId ← Channel.find token channel insecure
  let answer ← call .completingUpload "files.completeUploadExternal"
    (upload.completionRequest token ticket.fileId channelId insecure)
  Session.lift ((completed answer).mapError .failure)

def run (upload : Upload) (token channel : Text) (insecure : Bool) : Session Failure Members :=
  (upload.steps token channel insecure).mapError Failure.ofUpload

end Upload

end SlackCourier
