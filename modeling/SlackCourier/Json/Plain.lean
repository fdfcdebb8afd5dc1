import SlackCourier.Json.Value
import SlackCourier.Number.Written
import SlackCourier.Text.Occurrence

/-!
# Plain text of a value

A value put into words, without quotes: a string is its text, a list is its items with commas
between them, and an object has one text for all.  An object with a member of its own where its
words would be looked for has none, and neither has a list that holds one.  And the values that say
nothing: `null`, `false`, zero and the empty text.
-/

namespace SlackCourier.Json

def objectWords : Text := "[object Object]"

/-- The name of the member that leaves an object without words. -/
def wordsName : Text := "toString"

def wordlessComplaint : Text := "Cannot convert object to primitive value"

mutual

/-- The plain text of a value, if it has one; `null` in a list is empty. -/
def plainText? : Json → Option Text
  | .null => some "null"
  | .bool true => some "true"
  | .bool false => some "false"
  | .number d => some d.text
  | .string s => some s
  | .list items => (plainItems? items).map (Text.join ",")
  | .object members => if (members.lookup wordsName).isSome then none else some objectWords

/-- The plain texts of the items of a list, if each has one. -/
def plainItems? : List Json → Option (List Text)
  | [] => some []
  | .null :: rest => (plainItems? rest).map (⟨[]⟩ :: ·)
  | v :: rest => do
    let text ← plainText? v
    let texts ← plainItems? rest
    return text :: texts

end

def isVoid : Json → Bool
  | .null => true
  | .bool b => !b
  | .number d => d.code == 0
  | .string s => s.units.isEmpty
  | .list _ | .object _ => false

def heeded (value : Option Json) : Option Json := value.filter fun v => !v.isVoid

end SlackCourier.Json
