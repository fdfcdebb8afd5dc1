import SlackCourier.Server.Authority

/-!
# Addresses of requests

The path and the query of a request, from the text that was asked for.  A path is the list of its
segments: dot segments are walked, percent escapes of ASCII characters are read, apart from those
that have a meaning in an address, so a slash is only ever a slash that was written as one.
-/

namespace SlackCourier.Server

structure Address where
  /-- The segments of the path; a slash at the end leaves an empty one behind it. -/
  path : List Text
  /-- What follows the question mark, still encoded. -/
  query : Text
  deriving DecidableEq, Repr

namespace Address

/-- The text of an address without what an address never holds: line ends and tabs anywhere, and
control characters or blanks at its end. -/
def cleaned (target : Text) : List Char :=
  let cs := (target.chars.reverse.dropWhile fun c => c.toNat ≤ 0x20).reverse
  cs.filter fun c => c != '\t' && c != '\n' && c != '\r'

/-- The pieces of a path between its slashes, of either kind. -/
def pieces (cs : List Char) : List (List Char) :=
  Text.splitList '/' (cs.map fun c => if c = '\\' then '/' else c)

def readPoints : List Char → List Char
  | '%' :: '2' :: c :: rest =>
    if c = 'e' ∨ c = 'E' then '.' :: readPoints rest else '%' :: '2' :: c :: readPoints rest
  | c :: rest => c :: readPoints rest
  | [] => []

def isHere (piece : List Char) : Bool := readPoints piece == ['.']

def isAbove (piece : List Char) : Bool := readPoints piece == ['.', '.']

/-- Walks the pieces of a path, `above` being the pieces already passed, the last one first.  A dot
segment at the end leaves an empty piece. -/
def walk (above : List (List Char)) : List (List Char) → List (List Char)
  | [] => above.reverse
  | [piece] =>
    if isAbove piece then ([] :: above.drop 1).reverse
    else if isHere piece then ([] :: above).reverse
    else (piece :: above).reverse
  | piece :: next :: rest =>
    if isAbove piece then walk (above.drop 1) (next :: rest)
    else if isHere piece then walk above (next :: rest)
    else walk (piece :: above) (next :: rest)

def staysEscaped (c : Char) : Bool := ";/?:@&=+$,#%".toList.contains c

/-- The character that two digits of an escape in a path stand for, unless it stays escaped. -/
def escaped? (high low : Char) : Option Char := do
  let h ← Text.hexValue? high
  let l ← Text.hexValue? low
  if h < 8 ∧ !staysEscaped (Char.ofNat (h * 16 + l)) then some (Char.ofNat (h * 16 + l)) else none

def readEscapes : List Char → List Char
  | '%' :: high :: low :: rest =>
    match escaped? high low with
    | some c => c :: readEscapes rest
    | none => '%' :: readEscapes (high :: low :: rest)
  | c :: rest => c :: readEscapes rest
  | [] => []

def segments (cs : List Char) : List Text :=
  let cs := match cs with
    | '/' :: rest | '\\' :: rest => rest
    | other => other
  (walk [] (pieces cs)).map fun piece => Text.ofChars (readEscapes piece)

/-- The beginnings of a text that is a whole address, its host included. -/
def wholeStarts : List Text := ["http://", "https://"]

def isSlash (c : Char) : Bool := c == '/' || c == '\\'

def endsAuthority (c : Char) : Bool := isSlash c || c == '?' || c == '#'

/-- What follows the first slashes of a text that is a whole address; further slashes there do not
count. -/
def fromAuthority? (target : Text) : Option (List Char) :=
  (wholeStarts.find? fun start => target.startsWith start).map fun start =>
    ((cleaned target).drop start.length).dropWhile isSlash

def authority? (target : Text) : Option Authority :=
  (fromAuthority? target).map fun cs => Authority.ofList (cs.takeWhile fun c => !endsAuthority c)

/-- What a text asks for, from its path on: a text that is no whole address is a path, and begins at
the root even if it is not written so. -/
def fromPath (target : Text) : List Char :=
  match fromAuthority? target with
  | some cs => cs.dropWhile fun c => !endsAuthority c
  | none => cleaned (if target.startsWith "/" then target else "/" ++ target)

/-- The address that a text asks for; a fragment is no part of it. -/
def ofTarget (target : Text) : Address :=
  let cs := (fromPath target).takeWhile (· != '#')
  { path := segments (cs.takeWhile (· != '?'))
    query := Text.ofChars ((cs.dropWhile (· != '?')).drop 1) }

/-- The value of a name in the query: the first piece with the name counts. -/
def value? (address : Address) (name : Text) : Option Text :=
  (Text.formDecode address.query).lookup name

end Address

end SlackCourier.Server
