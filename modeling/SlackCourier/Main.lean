import SlackCourier.CommandLine
import SlackCourier.Exchange.Rehearsal

/-!
# The command

The command line as a program.  The surroundings are read from the standard input as one JSON
document, so a run is a rehearsal; the credential for tasks that bring none comes from the
environment.
-/

namespace SlackCourier

def Part.shown : Part → Text
  | .text content => content
  | .value json => json.indented
  | .access path reason => "Error: " ++ CommandLine.accessMessage path reason
  | .mishap cause => "Error: " ++ cause.message
  | .malformedText => "SyntaxError"

def Line.shown (line : Line) : Text := Text.join " " (line.parts.map Part.shown)

def Line.print (line : Line) : IO Unit := do
  match line.stream with
  | .stdout => (← IO.getStdout).putStrLn line.shown.toString
  | .stderr => (← IO.getStderr).putStrLn line.shown.toString

namespace CommandLine

def workDirectory : File.Path := ["work"]

/-- Runs the command in the surroundings that a document describes. -/
def rehearse (defaults : Task.Defaults) (document : String) (args : List String) : Exit :=
  let world := Rehearsal.worldOf workDirectory ((Json.parse document).getD (.object []))
  match (run defaults (args.map Text.ofString) world).result with
  | .ok exit => exit
  | .error impossible => nomatch impossible

end CommandLine

end SlackCourier

def main (args : List String) : IO UInt32 := do
  let document ← (← IO.getStdin).readToEnd
  let token ← IO.getEnv "SLACK_TOKEN"
  let domain ← IO.getEnv "SLACK_DOMAIN"
  let defaults := ⟨token.map .ofString, domain.map .ofString⟩
  let exit := SlackCourier.CommandLine.rehearse defaults document args
  for line in exit.lines do
    line.print
  return exit.code.toUInt32
