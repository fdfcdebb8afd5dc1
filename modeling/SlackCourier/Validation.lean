import SlackCourier.Json.Reserved
import SlackCourier.Text.Occurrence
import SlackCourier.Text.Units

/-!
# Validating records

A record is validated field by field.  A field's check sees the field's value, absence included, and
answers with a value or with messages; the record is accepted when every field is, and refused with
the messages of every field that is not.  So what one field is told depends on that field alone.
-/

namespace SlackCourier

/-- The check of one field: a value, or what is wrong with the field. -/
abbrev Check (α : Type) : Type := Option Json → Except (List Text) α

/-- Why a record was refused: messages about the record as a whole, and messages by field. -/
structure Refusal where
  formErrors : List Text
  /-- The refused fields in the order of the record, each with its messages. -/
  fieldErrors : List (Text × List Text)
  deriving DecidableEq, Repr

/-- A record under validation: what has been built, or the fields refused so far. -/
inductive Checked (α : Type) where
  | accepted (value : α)
  | refused (fields : List (Text × List Text))

namespace Check

def required : Text := "Required"

def wrongKind (expected : Text) (value : Json) : Text :=
  "Expected " ++ expected ++ ", received " ++ value.kind

def tooShort (least : Nat) : Text :=
  "String must contain at least " ++ toString least ++ " character(s)"

/-- A field that must be there, checked by a function on its value. -/
def present {α : Type} (check : Json → Except (List Text) α) : Check α
  | none => .error [required]
  | some value => check value

def text : Check Text := present fun
  | .string s => .ok s
  | value => .error [wrongKind "string" value]

/-- A text of at least so many 16-bit units, with the message for a shorter one. -/
def textOfAtLeast (least : Nat) (message : Text) : Check Text := fun value =>
  match text value with
  | .ok s => if s.length < least then .error [message] else .ok s
  | .error messages => .error messages

def truth : Check Bool := present fun
  | .bool b => .ok b
  | value => .error [wrongKind "boolean" value]

/-- Words in single quotes, with bars between them. -/
def quotedWords (words : List Text) : Text :=
  Text.join " | " (words.map fun w => "'" ++ w ++ "'")

/-- One of the words of a list of choices, as the choice it stands for. -/
def choice {α : Type} (choices : List (Text × α)) : Check α := present fun value =>
  let expected := quotedWords (choices.map (·.1))
  match value with
  | .string s =>
    match choices.lookup s with
    | some a => .ok a
    | none => .error ["Invalid enum value. Expected " ++ expected ++ ", received '" ++ s ++ "'"]
  | other => .error [wrongKind expected other]

/-- The members of an object, reserved ones dropped. -/
def object : Check Members := present fun
  | .object members => .ok (Json.dropReservedMembers members)
  | value => .error [wrongKind "object" value]

/-- The values of a list of outcomes, or all messages in order. -/
def gather {α : Type} : List (Except (List Text) α) → Except (List Text) (List α)
  | [] => .ok []
  | outcome :: rest =>
    match outcome, gather rest with
    | .ok value, .ok values => .ok (value :: values)
    | .ok _, .error messages => .error messages
    | .error messages, .ok _ => .error messages
    | .error messages, .error more => .error (messages ++ more)

def listOf {α : Type} (check : Check α) : Check (List α) := present fun
  | .list items => gather (items.map fun item => check (some item))
  | value => .error [wrongKind "array" value]

def optional {α : Type} (check : Check α) : Check (Option α)
  | none => .ok none
  | some value => (check (some value)).map some

def withDefault {α : Type} (value : α) (check : Check α) : Check α
  | none => .ok value
  | some given => check (some given)

end Check

namespace Checked

/-- A record to which the value of a field is handed, or the refused fields with this one among
them. -/
def field {α β : Type} (record : Checked (α → β)) (members : Members) (name : Text)
    (check : Check α) : Checked β :=
  match record, check (members.lookup name) with
  | accepted build, .ok value => accepted (build value)
  | accepted _, .error messages => refused [(name, messages)]
  | refused fields, .ok _ => refused fields
  | refused fields, .error messages => refused (fields ++ [(name, messages)])

/-- A record of its own as a field of another: the messages of its fields in order. -/
def toField {α : Type} : Checked α → Except (List Text) α
  | accepted value => .ok value
  | refused fields => .error (fields.flatMap (·.2))

def toRecord {α : Type} : Checked α → Except Refusal α
  | accepted value => .ok value
  | refused fields => .error ⟨[], fields⟩

end Checked

def Refusal.ofForm (message : Text) : Refusal := ⟨[message], []⟩

def Refusal.fieldsJson (refusal : Refusal) : Json :=
  .object (refusal.fieldErrors.map fun (name, messages) => (name, .list (messages.map .string)))

end SlackCourier
