import SlackCourier.Host.Name

/-!
# Authorities of whole addresses

The part of a whole address between its slashes and its path: credentials, a host and a port.
-/

namespace SlackCourier.Server

/-- The parts of an authority as they are written. -/
structure Authority where
  credentials : List Char
  host : List Char
  /-- What stands behind the colon after the host, if there is one. -/
  port : Option (List Char)
  deriving DecidableEq, Repr

namespace Authority

/-- The host and what stands behind the colon after it; a colon between brackets is part of the
host. -/
def splitPort (bracketed : Bool) : List Char → List Char × Option (List Char)
  | [] => ([], none)
  | c :: rest =>
    if c = ':' ∧ !bracketed then ([], some rest)
    else
      let (host, port) := splitPort ((bracketed || c == '[') && c != ']') rest
      (c :: host, port)

def ofList (cs : List Char) : Authority :=
  let (credentials, place) := Text.aroundLast '@' cs
  let (host, port) := splitPort false place
  { credentials := credentials, host := host, port := port }

def maxPort : Nat := 65535

/-- Whether a port is one, an empty one included. -/
def isPort (cs : List Char) : Bool :=
  cs.all Char.isDigit && (Text.valueIn 10 cs).any fun n => decide (n ≤ maxPort)

def isWellFormed (authority : Authority) : Bool :=
  authority.host != [] && Host.isHost authority.host && authority.port.all isPort

/-- Whether an authority gives a user or a password: the colon between the two gives neither. -/
def hasCredentials (authority : Authority) : Bool :=
  authority.credentials != [] && authority.credentials != [':']

end Authority

end SlackCourier.Server
