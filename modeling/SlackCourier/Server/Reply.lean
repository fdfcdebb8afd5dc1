import SlackCourier.Server.Inbound
import SlackCourier.Server.Settings
import SlackCourier.Task.Report

/-!
# Answers of the server

Everything the server can answer, as a cause with its status and its content, and the headers that
go with it.  Leave to call is given by one set of headers; every other answer says besides how a
browser has to treat it.
-/

namespace SlackCourier.Server

/-- Why a request for a task was turned away before any task was run. -/
inductive Denial where
  | keyNotConfigured
  | keyMissing
  | keyWrong
  | bodyNotObject
  | invalidTask (refusal : Refusal)
  | uploadsDisabled
  | uploadOutside
  deriving DecidableEq, Repr

inductive Answer where
  | healthy
  | notFound
  | denied (denial : Denial)
  | reported (report : Report)
  | crashed (mishap : Mishap)

inductive Content where
  | nothing
  | text (content : Text)
  | json (value : Json)
  deriving Repr

structure Reply where
  status : Nat
  headers : List (Text × Text)
  content : Content
  deriving Repr

namespace Denial

def status : Denial → Nat
  | keyNotConfigured => 503
  | keyMissing | keyWrong => 401
  | bodyNotObject | invalidTask _ => 400
  | uploadsDisabled | uploadOutside => 403

def message : Denial → Text
  | keyNotConfigured => "API key authentication is not configured"
  | keyMissing => "Missing or invalid Authorization header"
  | keyWrong => "Invalid API key"
  | bodyNotObject => "Request body must be a JSON object"
  | invalidTask _ => "Invalid task"
  | uploadsDisabled => "File uploads are disabled: UPLOAD_DIR is not set"
  | uploadOutside => "uploadFile.path must point inside UPLOAD_DIR"

/-- The members of a denial: the error, and for a task what is wrong with its fields. -/
def members (denial : Denial) : Members :=
  ("error", .string denial.message) ::
    match denial with
    | invalidTask refusal => [("details", refusal.fieldsJson)]
    | _ => []

end Denial

def version : Text := "0.1.0"

/-- The status for a report: a faulty configuration is the caller's, any other failure comes from
the other side. -/
def reportStatus (report : Report) : Nat :=
  match report.outcome with
  | .failed failure => if failure.code = .config then 400 else 502
  | _ => 200

namespace Answer

def status : Answer → Nat
  | healthy => 200
  | notFound => 404
  | denied denial => denial.status
  | reported report => reportStatus report
  | crashed _ => 500

/-- What an answer carries.  In production the wording of a mishap is kept back. -/
def content (mode : Mode) : Answer → Content
  | healthy => .json (.object [("status", .string "ok"), ("version", .string version)])
  | notFound => .text "404 Not Found"
  | denied denial => .json (.object denial.members)
  | reported report => .json report.toJson
  | crashed mishap =>
    .json (.object (("error", .string "Internal server error") ::
      if mode = .production then [] else [("message", .string mishap.message)]))

end Answer

def Content.header : Content → List (Text × Text)
  | .nothing => []
  | .text _ => [("content-type", "text/plain; charset=UTF-8")]
  | .json _ => [("content-type", "application/json")]

def Settings.origins (settings : Settings) : List Text := Text.split ',' settings.allowedOrigins

/-- The header that allows the page of a request to read the answer. -/
def originHeader (settings : Settings) (r : Inbound) : List (Text × Text) :=
  match r.header? "Origin" with
  | some origin =>
    if origin ≠ "" ∧ settings.origins.contains origin then
      [("access-control-allow-origin", origin)]
    else []
  | none => []

def varyHeader : Text × Text := ("vary", "Origin")

def securityHeaders : List (Text × Text) :=
  [("x-frame-options", "DENY"), ("x-content-type-options", "nosniff"),
    ("referrer-policy", "strict-origin-when-cross-origin")]

def leaveHeaders : List (Text × Text) :=
  [("vary", "Origin, Access-Control-Request-Headers"),
    ("access-control-allow-methods", "GET,POST,OPTIONS"),
    ("access-control-allow-headers", "Content-Type,Authorization")]

def preflightReply (settings : Settings) (r : Inbound) : Reply :=
  { status := 204
    headers := originHeader settings r ++ leaveHeaders
    content := .nothing }

/-- An answer as it goes out; one to a request for the head carries nothing. -/
def Answer.reply (answer : Answer) (settings : Settings) (r : Inbound) : Reply :=
  let content := answer.content settings.mode
  { status := answer.status
    headers := originHeader settings r ++ varyHeader :: (content.header ++ securityHeaders)
    content := if r.isHead then .nothing else content }

end SlackCourier.Server
