import SlackCourier.Json.Reserved

/-!
# Quotes in message text

Single and double quotes in the texts of a message get a backslash in front.  In a tree only strings
that stand directly under one of the listed member names are texts; a string in a list, at the root
or under another name is kept as it is.
-/

namespace SlackCourier.Message

def isQuote (u : UInt16) : Bool := u == Text.unit '\'' || u == Text.unit '"'

def backslash : UInt16 := Text.unit '\\'

def escapeList : List UInt16 → List UInt16
  | [] => []
  | u :: rest => if isQuote u then backslash :: u :: escapeList rest else u :: escapeList rest

/-- A list of units without the backslashes that stand directly before a quote. -/
def unescapeList : List UInt16 → List UInt16
  | [] => []
  | u :: rest =>
    if u = backslash ∧ rest.head?.any isQuote then unescapeList rest else u :: unescapeList rest

def escapeQuotes (text : Text) : Text := ⟨escapeList text.units⟩

/-- A text without the backslashes that stand directly before a quote. -/
def unescapeQuotes (text : Text) : Text := ⟨unescapeList text.units⟩

/-- A string value with its quotes escaped; any other value as it is. -/
def escapeString : Json → Json
  | .string s => .string (escapeQuotes s)
  | value => value

mutual

/-- A tree with the quotes escaped in the strings directly under the names `keys`. -/
def escapeTree (keys : List Text) : Json → Json
  | .list items => .list (escapeItems keys items)
  | .object members => .object (escapeMembers keys members)
  | value => value

/-- The items of a list with the quotes escaped below them; a string item is kept. -/
def escapeItems (keys : List Text) : List Json → List Json
  | [] => []
  | v :: rest => escapeTree keys v :: escapeItems keys rest

/-- The members of an object with the quotes escaped under the names `keys`.  Reserved members are
dropped. -/
def escapeMembers (keys : List Text) : List (Text × Json) → List (Text × Json)
  | [] => []
  | (k, v) :: rest =>
    if k = Json.reservedName then escapeMembers keys rest
    else
      (k, if keys.contains k then escapeString (escapeTree keys v) else escapeTree keys v) ::
        escapeMembers keys rest

end

theorem head?_escapeList (us : List UInt16) : (escapeList us).head?.any isQuote = false := by
  cases us with
  | nil => rfl
  | cons u rest =>
    unfold escapeList
    split
    · rfl
    · rename_i h
      simpa using h

theorem unescapeList_escapeList (us : List UInt16) : unescapeList (escapeList us) = us := by
  induction us with
  | nil => rfl
  | cons u rest ih =>
    unfold escapeList
    split
    · rename_i h
      have hu : u ≠ backslash := by
        rintro rfl
        exact absurd h (by decide)
      simp [unescapeList, h, hu, ih]
    · simp [unescapeList, head?_escapeList, ih]

@[simp] theorem unescapeQuotes_escapeQuotes (text : Text) :
    unescapeQuotes (escapeQuotes text) = text := by
  simp [unescapeQuotes, escapeQuotes, unescapeList_escapeList]

end SlackCourier.Message
