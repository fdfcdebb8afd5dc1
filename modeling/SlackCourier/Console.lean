import SlackCourier.Failure
import SlackCourier.File.Tree

/-!
# What a process prints

The lines that a process prints before it ends, and the code with which it ends.
-/

namespace SlackCourier

inductive Stream where
  | stdout
  | stderr
  deriving DecidableEq, Repr

def Stream.name : Stream → Text
  | .stdout => "stdout"
  | .stderr => "stderr"

inductive Part where
  | text (content : Text)
  | value (json : Json)
  | access (path : Text) (reason : File.AccessError)
  | mishap (mishap : Mishap)
  | malformedText
  deriving DecidableEq, Repr

structure Line where
  stream : Stream
  parts : List Part
  deriving DecidableEq, Repr

structure Exit where
  code : Nat
  lines : List Line
  deriving DecidableEq, Repr

end SlackCourier
