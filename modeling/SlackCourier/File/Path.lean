import SlackCourier.Text.Occurrence

/-!
# Paths

An absolute path is the list of names from the root down.  A path text is cut at its slashes, and is
resolved either lexically, where `..` takes back the name before it, or in a file tree, where links
are followed.  This module has the lexical half, where names are compared as they are written; in a
file tree a lonely half of a pair is no part of a name and is replaced.
-/

namespace SlackCourier.File

/-- An absolute path: the names from the root down. -/
abbrev Path := List Text

/-- The names in a path text, `.` and `..` among them: its pieces between the slashes, empty ones
left out. -/
def names (text : Text) : List Text := (Text.split '/' text).filter fun piece => piece != ⟨[]⟩

def stored (names : List Text) : List Text := names.map Text.mended

def isAbsolute (text : Text) : Bool := text.startsWith "/"

/-- The directory from which a path text is read: the root for an absolute text. -/
def origin (directory : Path) (text : Text) : Path := if isAbsolute text then [] else directory

/-- The names to walk for a path text: a slash at its end asks for a directory, as `.` does. -/
def segments (text : Text) : List Text :=
  if text.units.getLast? = some (Text.unit '/') then stored (names text) ++ [("." : Text)]
  else stored (names text)

/-- The last name in a path text, empty if it has none. -/
def baseName (text : Text) : Text := (names text).getLast?.getD ""

def render (path : Path) : Text := "/" ++ Text.join "/" path

def step (here : Path) (name : Text) : Path :=
  if name = "." then here else if name = ".." then here.dropLast else here ++ [name]

/-- The absolute path that a text denotes lexically, seen from `base`. -/
def resolve (base : Path) (text : Text) : Path :=
  (names text).foldl step (origin base text)

/-- What remains of two lists behind the last separator that both have, with the same items before
it; where one of them ends, a separator in the other counts as one of both.  The first two lists are
what remains until then. -/
def remains {α : Type} [DecidableEq α] (sep : α) :
    List α → List α → List α → List α → List α × List α
  | _, _, [], [] => ([], [])
  | up, down, [], d :: target => if d = sep then ([], target) else (up, down)
  | up, down, c :: base, [] => if c = sep then (base, []) else (up, down)
  | up, down, c :: base, d :: target =>
    if c = d then
      if c = sep then remains sep base target base target else remains sep up down base target
    else (up, down)

/-- The way from one absolute path text to another, both without dot segments: a step up for each
name that remains of the first, then down along what remains of the second. -/
def relative (base target : Text) : Text :=
  let base := base.units.drop 1
  let target := target.units.drop 1
  let (up, down) := remains (Text.unit '/') base target base target
  let steps : List Text :=
    if up = [] then [] else (Text.splitList (Text.unit '/') up).map fun _ => ".."
  Text.join "/" (steps ++ if down = [] then [] else [⟨down⟩])

end SlackCourier.File
