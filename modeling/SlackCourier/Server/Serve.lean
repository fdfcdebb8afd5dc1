import SlackCourier.File.Containment
import SlackCourier.Hash.Sha256
import SlackCourier.Server.Reply
import SlackCourier.Task.Run

/-!
# Serving requests

A request for a task passes the gate, is read, has its file confined to the directory for uploads,
and is run.  Every other request is answered without looking at anything.
-/

namespace SlackCourier.Server

def keyStart : Text := "Bearer "

/-- The key in a header value, if the value has the form of one. -/
def keyIn? (value : Text) : Option Text :=
  if value.startsWith keyStart then some (value.drop keyStart.length) else none

def keyDigest (key : Text) : Text.Bytes := Hash.sha256 (Text.encodeUtf8 key)

def gate (settings : Settings) (r : Inbound) : Except Denial Unit :=
  match settings.apiKey with
  | none => .error .keyNotConfigured
  | some expected =>
    match (r.header? "Authorization").bind keyIn? with
    | none => .error .keyMissing
    | some key => if keyDigest key = keyDigest expected then .ok () else .error .keyWrong

/-- The members of the object in a body, byte order marks before it passed over. -/
def bodyMembers (body : Option Text) : Except Denial Members :=
  let text := Text.dropByteOrderMarks ((body.getD "").mended)
  match (Json.parse text).bind Json.members? with
  | some members => .ok members
  | none => .error .bodyNotObject

def taskIn (settings : Settings) (body : Option Text) : Except Denial Task := do
  let members ← bodyMembers body
  (Task.ofMembers (settings.defaults.fill members)).toRecord.mapError .invalidTask

def withPath (task : Task) (upload : Upload) (path : Text) : Task :=
  { task with uploadFile := some { upload with path := path } }

/-- A task whose file lies in the directory for uploads, by its canonical path. -/
def confine (settings : Settings) (task : Task) : Session Denial Task :=
  match task.uploadFile with
  | none => return task
  | some upload =>
    match settings.uploadDirectory with
    | none => Session.fail .uploadsDisabled
    | some root => do
      let path? ← Session.look upload.path fun tree directory =>
        File.uploadPath tree directory root upload.path
      match path? with
      | some path => return withPath task upload (File.render path)
      | none => Session.fail .uploadOutside

/-- The task that a request asks for, ready to be run. -/
def taskFor (settings : Settings) (r : Inbound) : Session Denial Task := do
  Session.lift (gate settings r)
  let task ← Session.lift (taskIn settings r.body)
  confine settings task

def runTask (settings : Settings) (r : Inbound) : Session Empty Answer := do
  match ← (taskFor settings r).attempt with
  | .error denial => return .denied denial
  | .ok task =>
    match ← (task.run r.isDryRun).attempt with
    | .ok report => return .reported report
    | .error mishap => return .crashed mishap

def serve (settings : Settings) (r : Inbound) : Session Empty Reply :=
  match r.route with
  | .preflight => return preflightReply settings r
  | .health => return Answer.healthy.reply settings r
  | .missing => return Answer.notFound.reply settings r
  | .missingTask =>
    return match gate settings r with
      | .ok () => Answer.notFound.reply settings r
      | .error denial => (Answer.denied denial).reply settings r
  | .task => do return (← runTask settings r).reply settings r

/-- Serves requests in order, each in the surroundings that the one before it left. -/
def serveAll (settings : Settings) (world : World) : List Inbound → List (Ending Empty Reply)
  | [] => []
  | r :: rest =>
    let ending := serve settings r world
    ending :: serveAll settings ending.world rest

@[simp] theorem length_serveAll (settings : Settings) (world : World) (requests : List Inbound) :
    (serveAll settings world requests).length = requests.length := by
  induction requests generalizing world with
  | nil => rfl
  | cons r rest ih => simp [serveAll, ih]

end SlackCourier.Server
