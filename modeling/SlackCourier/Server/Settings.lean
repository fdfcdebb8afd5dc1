import SlackCourier.Number.Numeral
import SlackCourier.Task.Defaults
import SlackCourier.Validation

/-!
# Settings of the server

The settings are read from named texts, validated like any other record.  The credential for tasks
that bring none, the key that opens the task routes and the directory for uploads may each be left
out; without a key no task is run, and without a directory nothing is uploaded.
-/

namespace SlackCourier.Server

inductive Mode where
  | development
  | production
  | test
  deriving DecidableEq, Repr

def Mode.name : Mode → Text
  | .development => "development"
  | .production => "production"
  | .test => "test"

inductive LogLevel where
  | fatal
  | error
  | warn
  | info
  | debug
  | trace
  | silent
  deriving DecidableEq, Repr

def LogLevel.name : LogLevel → Text
  | .fatal => "fatal"
  | .error => "error"
  | .warn => "warn"
  | .info => "info"
  | .debug => "debug"
  | .trace => "trace"
  | .silent => "silent"

/-- The settings. -/
structure Settings where
  listenAt : Double
  mode : Mode
  logLevel : LogLevel
  token : Option Text
  domain : Option Text
  /-- The origins whose pages may call the server, with commas between them. -/
  allowedOrigins : Text
  apiKey : Option Text
  uploadDirectory : Option Text
  deriving DecidableEq, Repr

namespace Settings

/-- The number at which to listen when none is given. -/
def defaultListenAt : Double := Double.ofNat 3000

def defaultOrigins : Text := "http://localhost:5173"

/-- The least length of a key, in 16-bit units. -/
def leastKeyUnits : Nat := 16

def checkNumber : Check Double := Check.present fun
  | .string s =>
    match settingNumber? s with
    | some d => .ok d
    | none => .error ["Expected number, received nan"]
  | value => .error [Check.wrongKind "number" value]

def modes : List (Text × Mode) :=
  [Mode.development, .production, .test].map fun mode => (mode.name, mode)

def logLevels : List (Text × LogLevel) :=
  [LogLevel.fatal, .error, .warn, .info, .debug, .trace, .silent].map fun level =>
    (level.name, level)

/-- The check for a text that may be missing but not be shorter than so many 16-bit units. -/
def optionalText (least : Nat) : Check (Option Text) :=
  Check.optional (Check.textOfAtLeast least (Check.tooShort least))

def ofTexts (texts : List (Text × Text)) : Except Refusal Settings :=
  let members : Members := texts.map fun (name, text) => (name, .string text)
  Checked.toRecord <|
    Checked.accepted Settings.mk
      |>.field members "PORT" (Check.withDefault defaultListenAt checkNumber)
      |>.field members "NODE_ENV" (Check.withDefault .development (Check.choice modes))
      |>.field members "LOG_LEVEL" (Check.withDefault .info (Check.choice logLevels))
      |>.field members "SLACK_TOKEN" (optionalText 1)
      |>.field members "SLACK_DOMAIN" (optionalText 1)
      |>.field members "ALLOWED_ORIGINS" (Check.withDefault defaultOrigins Check.text)
      |>.field members "API_KEY" (optionalText leastKeyUnits)
      |>.field members "UPLOAD_DIR" (optionalText 1)

def defaults (settings : Settings) : Task.Defaults := ⟨settings.token, settings.domain⟩

/-- The settings as JSON members, under the names they are read from. -/
def members (settings : Settings) : Members :=
  Members.single "PORT" (.number settings.listenAt) ++
    Members.single "NODE_ENV" (.string settings.mode.name) ++
    Members.single "LOG_LEVEL" (.string settings.logLevel.name) ++
    Members.optional "SLACK_TOKEN" (settings.token.map .string) ++
    Members.optional "SLACK_DOMAIN" (settings.domain.map .string) ++
    Members.single "ALLOWED_ORIGINS" (.string settings.allowedOrigins) ++
    Members.optional "API_KEY" (settings.apiKey.map .string) ++
    Members.optional "UPLOAD_DIR" (settings.uploadDirectory.map .string)

end Settings

end SlackCourier.Server
