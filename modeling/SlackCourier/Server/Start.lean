import SlackCourier.Console
import SlackCourier.Server.Settings

/-!
# Starting the server

The settings are read once, when the server starts.  Settings that are refused end the process with
one line that says what is wrong with them.
-/

namespace SlackCourier.Server

def refusedExit (refusal : Refusal) : Exit :=
  ⟨1, [⟨.stderr, [.text "Invalid environment variables:", .value refusal.fieldsJson]⟩]⟩

/-- The settings to serve with, or the end of the process. -/
def start (texts : List (Text × Text)) : Except Exit Settings :=
  (Settings.ofTexts texts).mapError refusedExit

end SlackCourier.Server
