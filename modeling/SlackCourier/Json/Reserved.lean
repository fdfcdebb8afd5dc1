import SlackCourier.Json.Value

/-!
# The reserved member name

One member name is reserved: records and answers that pass validation lose every member of that
name, at every depth.  Nothing else about a tree changes.
-/

namespace SlackCourier.Json

def reservedName : Text := "__proto__"

mutual

def dropReserved : Json → Json
  | .list items => .list (dropReservedItems items)
  | .object members => .object (dropReservedMembers members)
  | value => value

def dropReservedItems : List Json → List Json
  | [] => []
  | v :: rest => dropReserved v :: dropReservedItems rest

/-- A list of members without the reserved ones, here and below. -/
def dropReservedMembers : List (Text × Json) → List (Text × Json)
  | [] => []
  | (k, v) :: rest =>
    if k = reservedName then dropReservedMembers rest
    else (k, dropReserved v) :: dropReservedMembers rest

end

mutual

def isPlain : Json → Bool
  | .list items => isPlainItems items
  | .object members => isPlainMembers members
  | _ => true

/-- Whether no member in a list of trees has the reserved name. -/
def isPlainItems : List Json → Bool
  | [] => true
  | v :: rest => isPlain v && isPlainItems rest

/-- Whether no member of a list, and none below it, has the reserved name. -/
def isPlainMembers : List (Text × Json) → Bool
  | [] => true
  | (k, v) :: rest => k != reservedName && isPlain v && isPlainMembers rest

end

mutual

theorem isPlain_dropReserved : (value : Json) → isPlain (dropReserved value) = true
  | .list items => by simp [dropReserved, isPlain, isPlainItems_dropReservedItems items]
  | .object members => by simp [dropReserved, isPlain, isPlainMembers_dropReservedMembers members]
  | .null | .bool _ | .number _ | .string _ => rfl

theorem isPlainItems_dropReservedItems :
    (items : List Json) → isPlainItems (dropReservedItems items) = true
  | [] => rfl
  | v :: rest => by
    simp [dropReservedItems, isPlainItems, isPlain_dropReserved v,
      isPlainItems_dropReservedItems rest]

theorem isPlainMembers_dropReservedMembers :
    (members : List (Text × Json)) → isPlainMembers (dropReservedMembers members) = true
  | [] => rfl
  | (k, v) :: rest => by
    unfold dropReservedMembers
    split
    · exact isPlainMembers_dropReservedMembers rest
    · rename_i h
      simp [isPlainMembers, h, isPlain_dropReserved v, isPlainMembers_dropReservedMembers rest]

end

mutual

theorem dropReserved_eq_self :
    {value : Json} → isPlain value = true → dropReserved value = value
  | .list items, h => by
    have hi : isPlainItems items = true := by simpa [isPlain] using h
    simp [dropReserved, dropReservedItems_eq_self hi]
  | .object members, h => by
    have hm : isPlainMembers members = true := by simpa [isPlain] using h
    simp [dropReserved, dropReservedMembers_eq_self hm]
  | .null, _ | .bool _, _ | .number _, _ | .string _, _ => rfl

theorem dropReservedItems_eq_self :
    {items : List Json} → isPlainItems items = true → dropReservedItems items = items
  | [], _ => rfl
  | v :: rest, h => by
    simp only [isPlainItems, Bool.and_eq_true] at h
    simp [dropReservedItems, dropReserved_eq_self h.1, dropReservedItems_eq_self h.2]

theorem dropReservedMembers_eq_self :
    {members : List (Text × Json)} → isPlainMembers members = true →
      dropReservedMembers members = members
  | [], _ => rfl
  | (k, v) :: rest, h => by
    simp only [isPlainMembers, Bool.and_eq_true, bne_iff_ne] at h
    simp [dropReservedMembers, h.1.1, dropReserved_eq_self h.1.2,
      dropReservedMembers_eq_self h.2]

end

end SlackCourier.Json
