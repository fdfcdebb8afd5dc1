import SlackCourier.Json.Plain
import SlackCourier.Json.Reserved

/-!
# Error records in log lines

An object with a text under `message` is an error record.  In a log line it is told in full: its
type, its message with the messages of its causes, its stack with the stacks of its causes, and its
other members.  A member that is an error record itself is told in the same way; a cause is told in
the message and the stack alone.  Stacks are joined as texts, so a record with a cause cannot be
told when one of their stacks has no words.
-/

namespace SlackCourier.Log

/-- The message of an error record; any other value has none. -/
def errorMessage? (value : Json) : Option Text := (value.member? "message").bind Json.text?

def isErrorRecord (value : Json) : Bool := (errorMessage? value).isSome

/-- One error of a chain of causes: its message and its stack. -/
structure Link where
  message : Text
  /-- The stack, if there is something under its name. -/
  stack : Option Json

def stackName : Text := "stack"

def causeName : Text := "cause"

mutual

/-- An error record and its causes, the record itself first; any other value has none. -/
def chain : Json → List Link
  | .object members =>
    match errorMessage? (.object members) with
    | some message => ⟨message, Json.heeded (members.lookup stackName)⟩ :: chainOfCause members
    | none => []
  | _ => []

def chainOfCause : List (Text × Json) → List Link
  | [] => []
  | (k, v) :: rest => if k = causeName then chain v else chainOfCause rest

end

/-- The message of a chain: the messages with colons between them. -/
def chainMessage (links : List Link) : Text := Text.join ": " (links.map Link.message)

/-- The text of the stack of one error, empty if there is none. -/
def Link.stackText? (link : Link) : Option Text :=
  match link.stack with
  | some stack => stack.plainText?
  | none => some ""

/-- The stack of a chain.  A single stack is kept as it is; several are joined as texts. -/
def chainStack? : List Link → Option Json
  | [link] => some (link.stack.getD (.string ""))
  | links => (links.mapM Link.stackText?).map fun texts =>
    .string (Text.join "\ncaused by: " texts)

/-- The name of the member that overrides the type of an error record. -/
def typeSource : Text := "constructor"

/-- The type of an error record.  One with a type source of its own has its name for a type, or
none. -/
def typeOf (members : Members) : Option Json :=
  if (members.get? typeSource).isSome then members.get? "name" else some (.string "Object")

/-- The names that never come from a member: those every object answers to, and that of the record
as it was. -/
def takenNames : List Text :=
  ["constructor", "hasOwnProperty", "isPrototypeOf", "propertyIsEnumerable", "toLocaleString",
    "toString", "valueOf", "__defineGetter__", "__defineSetter__", "__lookupGetter__",
    "__lookupSetter__", Json.reservedName, "raw"]

def severalName : Text := "errors"

def aggregateName : Text := "aggregateErrors"

def severalIn? (members : Members) : Option (List Json) :=
  (members.get? severalName).bind Json.items?

def heading? (members : Members) : Option Members := do
  let links := chain (.object members)
  let stack ← chainStack? links
  return Members.optional "type" (typeOf members) ++
    Members.single "message" (.string (chainMessage links)) ++ Members.single stackName stack

/-- The names under which nothing further is told of an error record with a heading. -/
def toldNames (heading members : Members) : List Text :=
  takenNames ++ heading.map (·.1) ++
    (if (severalIn? members).isSome then [aggregateName] else [])

mutual

/-- A value as it stands in a log line where errors are expected, if it can be told. -/
def told? : Json → Option Json
  | .object members =>
    if isErrorRecord (.object members) then do
      let heading ← heading? members
      let further ← toldMembers? (toldNames heading members) members
      return .object (heading ++ further)
    else some (.object members)
  | value => some value

/-- The further members of an error record, those with names in `skipped` left out. -/
def toldMembers? (skipped : List Text) : List (Text × Json) → Option (List (Text × Json))
  | [] => some []
  | (k, .list items) :: rest =>
    let several : Option Members :=
      if k = severalName then
        (toldItems? items).map fun errors => Members.single aggregateName (.list errors)
      else some []
    let kept := if skipped.contains k then [] else Members.single k (.list items)
    do return (← several) ++ kept ++ (← toldMembers? skipped rest)
  | (k, v) :: rest =>
    let kept : Option Members :=
      if skipped.contains k || (k == causeName && isErrorRecord v) then some []
      else (told? v).map (Members.single k)
    do return (← kept) ++ (← toldMembers? skipped rest)

def toldItems? : List Json → Option (List Json)
  | [] => some []
  | v :: rest => do
    let value ← told? v
    let values ← toldItems? rest
    return value :: values

end

end SlackCourier.Log
