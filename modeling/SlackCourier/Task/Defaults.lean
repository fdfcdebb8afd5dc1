import SlackCourier.Task.Record

/-!
# Credentials that stand in

A task that brings no token or no domain of its own gets the one that was set up for it.  A member
that is there stays, whatever its value, and is validated as it is.
-/

namespace SlackCourier.Task

/-- The token and the domain for tasks that bring none. -/
structure Defaults where
  token : Option Text
  domain : Option Text
  deriving DecidableEq, Repr

/-- A member that stands in when the record has none of its name. -/
def standIn (members : Members) (name : Text) (value : Option Text) : Members :=
  if (members.lookup name).isSome then [] else Members.optional name (value.map .string)

/-- The members of a record with the defaults where it brings none. -/
def Defaults.fill (defaults : Defaults) (members : Members) : Members :=
  standIn members "token" defaults.token ++ standIn members "domain" defaults.domain ++ members

@[simp] theorem Defaults.fill_none (members : Members) : fill ⟨none, none⟩ members = members := by
  simp [fill, standIn]

end SlackCourier.Task
