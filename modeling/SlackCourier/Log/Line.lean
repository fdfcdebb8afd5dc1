import SlackCourier.Json.Printer
import SlackCourier.Log.ErrorRecord
import SlackCourier.Redaction

/-!
# Log lines

A log line is the text of a JSON object: its level, the fields, and the message.  Fields that
describe a request are gathered in one member, an error record is told in full, and every secret is
censored before anything is written.  A field whose name means an operation on every object is not
written but asked for the result of that operation; most of them have none to give, and then there
is no line.
-/

namespace SlackCourier.Log

def requestMarks : List Text := ["method", "headers", "socket"]

def isRequest (fields : Members) : Bool :=
  requestMarks.all fun name => (Json.heeded (fields.get? name)).isSome

def memberOf (value : Option Json) (name : Text) : Option Json := value.bind (Json.member? name)

/-- What is told of a request.  Particulars of a wrapped request come before those of its socket,
and the URL is always told, if only to be censored. -/
def requestMembers (fields : Members) : Members :=
  let info := Json.heeded (fields.get? "info")
  let connection := info.or (fields.get? "socket")
  Members.optional "id" ((Json.heeded (fields.get? "id")).or (memberOf info "id")) ++
    Members.optional "method" (fields.get? "method") ++
    Members.single "url" ((fields.get? "url").getD .null) ++
    Members.optional "query" (Json.heeded (fields.get? "query")) ++
    Members.optional "params" (Json.heeded (fields.get? "params")) ++
    Members.optional "headers" (fields.get? "headers") ++
    Members.optional "remoteAddress" (memberOf connection "remoteAddress") ++
    Members.optional "remotePort" (memberOf connection "remotePort")

def gathered (fields : Members) : Members :=
  if isRequest fields then Members.single "req" (.object (requestMembers fields)) else fields

def errorName : Text := "err"

inductive Obstacle where
  | wordless
  | noObject
  /-- The words of an object are asked for, and there is no object. -/
  | nothingToWord
  | noFunction (operation : Text)
  | noOperation
  deriving DecidableEq, Repr

def Obstacle.message : Obstacle → Text
  | wordless => Json.wordlessComplaint
  | noObject => "Cannot convert undefined or null to object"
  | nothingToWord => "Object.prototype.toLocaleString called on null or undefined"
  | noFunction operation => "Object.prototype." ++ operation ++ ": Expecting function"
  | noOperation => "serializers[key] is not a function"

def inWords (value : Json) : Except Obstacle Text :=
  match value.plainText? with
  | some text => .ok text
  | none => .error .wordless

/-- The text of a value that stands in a line without quotes; `null` stands there as an object. -/
def bareText (value : Json) : Except Obstacle Text :=
  if value = .null then .ok Json.objectWords else inWords value

/-- The result of the operation that the name of a field means, if it means one: the text to write,
nothing to write, or an obstacle. -/
def operation? (name : Text) (value : Json) : Option (Except Obstacle (Option Text)) :=
  if name = "constructor" then some ((bareText value).map some)
  else if name = "isPrototypeOf" then some (.ok (some "false"))
  else if name = "toString" then some (.ok (some "[object Undefined]"))
  else if name = "hasOwnProperty" ∨ name = "propertyIsEnumerable" then
    some ((inWords value).bind fun _ => .error .noObject)
  else if name = "__lookupGetter__" ∨ name = "__lookupSetter__" then
    some ((inWords value).map fun _ => none)
  else if name = "valueOf" then some (.error .noObject)
  else if name = "toLocaleString" then some (.error .nothingToWord)
  else if name = "__defineGetter__" ∨ name = "__defineSetter__" then
    some (.error (.noFunction name))
  else if name = Json.reservedName then some (.error .noOperation)
  else none

/-- A field with the given text for its value, and the comma before it. -/
def written (name text : Text) : Text := "," ++ (Json.string name).compact ++ ":" ++ text

def redactedPart (field : Text × Json) : Text :=
  let fields := (Redaction.redact Redaction.depths (.object [field])).entries
  Text.join "" (fields.map fun (name, value) => written name value.compact)

/-- A field that is written as it is, an error told in full. -/
def ordinaryPart (name : Text) (value : Json) : Except Obstacle Text :=
  if name = errorName then
    match told? value with
    | some value => .ok (redactedPart (name, value))
    | none => .error .wordless
  else .ok (redactedPart (name, value))

/-- A field of the line, empty if it is left out. -/
def fieldPart (field : Text × Json) : Except Obstacle Text :=
  match operation? field.1 field.2 with
  | some result => result.map fun text? => (text?.map (written field.1)).getD ⟨[]⟩
  | none => ordinaryPart field.1 field.2

def ordinaryLevel : Nat := 30

/-- The text of a log line; the first field with an obstacle stands in its way. -/
def line (fields : Members) (message : Text) : Except Obstacle Text := do
  let parts ← (gathered fields).mapM fieldPart
  return "\x7b\"level\":" ++ toString ordinaryLevel ++ Text.join "" parts ++
    written "msg" (Json.string message).compact ++ "\x7d"

end SlackCourier.Log
