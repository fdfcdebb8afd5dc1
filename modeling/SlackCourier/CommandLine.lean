import SlackCourier.Console
import SlackCourier.Task.Defaults
import SlackCourier.Task.Run
import SlackCourier.Text.Quoted

/-!
# The command line

One task is read from a file and run, and its report is printed.  The file is named by the first
argument that does not begin with two hyphens; `--dry-run`, wherever it stands, asks that nothing be
written.  The exit code is zero exactly when the task succeeded.
-/

namespace SlackCourier.CommandLine

inductive Stop where
  | noFile
  | unreadable (path : Text) (reason : File.AccessError)
  | malformed
  | notObject (path : Text)
  | invalid (refusal : Refusal)
  | crashed (mishap : Mishap)
  deriving DecidableEq, Repr

def dryRunFlag : Text := "--dry-run"

def isFlag (arg : Text) : Bool := arg.startsWith "--"

/-- The path that the arguments name; an empty one is none. -/
def path? (args : List Text) : Option Text :=
  Text.given (args.find? fun arg => !isFlag arg)

def accessMessage (path : Text) : File.AccessError → Text
  | .missing => "ENOENT: no such file or directory, open '" ++ path ++ "'"
  | .notDirectory => "ENOTDIR: not a directory, open '" ++ path ++ "'"
  | .isDirectory => "EISDIR: illegal operation on a directory, read"
  | .tooManyLinks => "ELOOP: too many symbolic links encountered, open '" ++ path ++ "'"
  | .nameTooLong => "ENAMETOOLONG: name too long, open '" ++ path ++ "'"
  | .zeroInPath =>
    "The argument 'path' must be a string, Uint8Array, or URL without null bytes. Received " ++
      Text.excerpt path

def crashed : Part := .text "Task crashed:"

def Stop.parts : Stop → List Part
  | noFile => [.text "Usage: run-task <task.json> [--dry-run]"]
  | unreadable path reason => [CommandLine.crashed, .access path reason]
  | malformed => [CommandLine.crashed, .malformedText]
  | notObject path => [.text (path ++ " must contain a JSON object")]
  | invalid refusal => [.text "Invalid task:", .value refusal.fieldsJson]
  | .crashed mishap => [CommandLine.crashed, .mishap mishap]

def membersOf (path content : Text) : Except Stop Members :=
  match Json.parse content with
  | none => .error .malformed
  | some (.object members) => .ok members
  | some _ => .error (.notObject path)

def taskOf (defaults : Task.Defaults) (members : Members) : Except Stop Task :=
  (Task.ofMembers (defaults.fill members)).toRecord.mapError .invalid

def readText (path : Text) : Session Stop Text := do
  match ← Session.look path fun tree directory => tree.read directory path with
  | .ok bytes => return Text.decodeUtf8 bytes
  | .error reason => Session.fail (.unreadable path reason)

def readTask (defaults : Task.Defaults) (args : List Text) : Session Stop Task :=
  match path? args with
  | none => Session.fail .noFile
  | some path => do
    let content ← readText path
    let members ← Session.lift (membersOf path content)
    Session.lift (taskOf defaults members)

def report (defaults : Task.Defaults) (args : List Text) : Session Stop Report := do
  let task ← readTask defaults args
  (task.run (args.contains dryRunFlag)).mapError .crashed

def reported (report : Report) : Exit :=
  ⟨if report.outcome.isOk then 0 else 1, [⟨.stdout, [.text report.toJson.indented]⟩]⟩

def stopped (stop : Stop) : Exit := ⟨1, [⟨.stderr, stop.parts⟩]⟩

def run (defaults : Task.Defaults) (args : List Text) : Session Empty Exit := do
  match ← (report defaults args).attempt with
  | .ok report => return reported report
  | .error stop => return stopped stop

theorem code_le_one (defaults : Task.Defaults) (args : List Text) (world : World) :
    ∀ exit, (run defaults args world).result = .ok exit → exit.code ≤ 1 := by
  intro exit h
  unfold run at h
  rw [Session.bind_attempt] at h
  cases hr : (report defaults args world).result with
  | ok r =>
    rw [hr] at h
    cases h
    unfold reported
    dsimp only
    split <;> decide
  | error stop =>
    rw [hr] at h
    cases h
    exact Nat.le_refl 1

end SlackCourier.CommandLine
