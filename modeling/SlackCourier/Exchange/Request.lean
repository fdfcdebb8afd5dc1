import SlackCourier.Text.Utf8
import SlackCourier.Text.Occurrence
import SlackCourier.File.Tree
import SlackCourier.Number.Double

/-!
# Requests and their answers

What goes out over the network and what may come back.  The network and the file system a run starts
from are data: a script that holds one turn for each request, and a file tree.  A turn may remove
files before it answers, so files can disappear between two requests, but none can appear.
-/

namespace SlackCourier

inductive Method where
  | get
  | post
  deriving DecidableEq, Repr

def Method.name : Method → Text
  | .get => "GET"
  | .post => "POST"

inductive Body where
  | text (content : Text)
  | bytes (content : Text.Bytes)
  deriving DecidableEq, Repr

/-- A request as it goes out. -/
structure Request where
  method : Method
  url : Text
  /-- The headers, each with its name as given. -/
  headers : List (Text × Text)
  body : Option Body
  insecure : Bool
  deriving DecidableEq, Repr

/-- What asking for the body of a response comes to: its text, a failure while reading, for a reason
that may have no words, or an error of the asking itself, before any reading. -/
inductive Reading where
  | text (content : Text)
  | broken (reason : Option Text)
  | crashed (reason : Text)
  deriving DecidableEq, Repr

/-- The status of a response that brings what was asked for. -/
def okStatus : Double := Double.ofNat 200

/-- A response. -/
structure Response where
  status : Double
  statusText : Text
  body : Reading
  deriving DecidableEq, Repr

/-- What a request meets: no response at all, or a response.  The reason for none may have no words;
its words come in pieces, between which the URL of the request is quoted. -/
inductive Answer where
  | failure (reason : Option (List Text))
  | response (response : Response)
  deriving DecidableEq, Repr

/-- What an answer is to the request for a URL: the reason that there is no response, in words if
it has any, or the response. -/
def Answer.settle (url : Text) : Answer → Except (Option Text) Response
  | .failure reason => .error (reason.map (Text.join url))
  | .response r => .ok r

/-- One turn of a script: the files to remove first, and the answer. -/
structure Turn where
  removes : List Text
  answer : Answer
  deriving DecidableEq, Repr

/-- The surroundings of a run. -/
structure World where
  /-- The answers still to come, the next one first. -/
  script : List Turn
  tree : File.Tree
  directory : File.Path
  deriving DecidableEq, Repr

instance : Inhabited World := ⟨⟨[], default, []⟩⟩

/-- The reason that a request fails when the script has no turn left. -/
def scriptOver : Text := "no scripted response left"

/-- What a request for a URL meets, and the surroundings after it. -/
def World.answer (world : World) (url : Text) : Except (Option Text) Response × World :=
  match world.script with
  | [] => (.error (some scriptOver), world)
  | turn :: rest =>
    let tree := turn.removes.foldl (·.remove world.directory ·) world.tree
    (turn.answer.settle url, { world with script := rest, tree := tree })

@[simp] theorem Answer.settle_wordless (url : Text) :
    (Answer.failure none).settle url = .error none := rfl

@[simp] theorem Answer.settle_worded (url reason : Text) :
    (Answer.failure (some [reason])).settle url = .error (some reason) := rfl

@[simp] theorem Answer.settle_response (url : Text) (response : Response) :
    (Answer.response response).settle url = .ok response := rfl

@[simp] theorem World.script_answer (world : World) (url : Text) :
    (world.answer url).2.script = world.script.tail := by
  unfold answer
  cases hscript : world.script with
  | nil => exact hscript
  | cons turn rest => rfl

theorem World.script_ne_nil_of_answer {world : World} {url : Text} {response : Response}
    (h : (world.answer url).1 = .ok response) : world.script ≠ [] := by
  intro hnil
  rw [answer, hnil] at h
  cases h

end SlackCourier
