import SlackCourier.Number.Double
import SlackCourier.Number.Numeral
import SlackCourier.Text.Units

/-!
# JSON values

Trees of JSON data.  The members of an object are a list, because their order is part of what is
written: members named by an array index come first, by rising index, and all others follow in the
order in which they were added.  A later value under the same name replaces the earlier one in its
place.
-/

namespace SlackCourier

/-- A JSON value. -/
inductive Json where
  | null
  | bool (value : Bool)
  | number (value : Double)
  | string (value : Text)
  | list (items : List Json)
  | object (members : List (Text × Json))
  deriving Repr

/-- The members of an object, in the order in which they are written. -/
abbrev Members := List (Text × Json)

namespace Json

instance : Inhabited Json := ⟨.null⟩

mutual

/-- Identity of two trees, member order included. -/
def beq : Json → Json → Bool
  | .null, .null => true
  | .bool a, .bool b => a == b
  | .number a, .number b => a == b
  | .string a, .string b => a == b
  | .list a, .list b => beqItems a b
  | .object a, .object b => beqMembers a b
  | _, _ => false

def beqItems : List Json → List Json → Bool
  | [], [] => true
  | a :: as, b :: bs => beq a b && beqItems as bs
  | _, _ => false

def beqMembers : List (Text × Json) → List (Text × Json) → Bool
  | [], [] => true
  | (k, a) :: as, (l, b) :: bs => k == l && beq a b && beqMembers as bs
  | _, _ => false

end

mutual

theorem beq_iff : (a b : Json) → (beq a b = true ↔ a = b)
  | .null, b => by cases b <;> simp [beq]
  | .bool a, b => by cases b <;> simp [beq]
  | .number a, b => by cases b <;> simp [beq]
  | .string a, b => by cases b <;> simp [beq]
  | .list a, b => by cases b <;> simp [beq, beqItems_iff]
  | .object a, b => by cases b <;> simp [beq, beqMembers_iff]

theorem beqItems_iff : (a b : List Json) → (beqItems a b = true ↔ a = b)
  | [], b => by cases b <;> simp [beqItems]
  | a :: as, b => by cases b <;> simp [beqItems, beq_iff, beqItems_iff]

theorem beqMembers_iff : (a b : List (Text × Json)) → (beqMembers a b = true ↔ a = b)
  | [], b => by cases b <;> simp [beqMembers]
  | (k, a) :: as, b => by
    cases b <;> simp [beqMembers, beq_iff, beqMembers_iff, Prod.ext_iff]

end

instance : DecidableEq Json := fun a b => decidable_of_iff _ (beq_iff a b)

def ofInt (n : Int) : Json := .number (Double.ofInt n)

/-- The member of an object with a given name; no other value has members. -/
def member? (name : Text) : Json → Option Json
  | .object members => members.lookup name
  | _ => none

def text? : Json → Option Text
  | .string s => some s
  | _ => none

def items? : Json → Option (List Json)
  | .list items => some items
  | _ => none

def members? : Json → Option Members
  | .object members => some members
  | _ => none

def isObject (value : Json) : Bool := value.members?.isSome

def kind : Json → Text
  | .null => "null"
  | .bool _ => "boolean"
  | .number _ => "number"
  | .string _ => "string"
  | .list _ => "array"
  | .object _ => "object"

end Json

namespace Members

def maxIndex : Nat := 4294967294

abbrev get? (members : Members) (name : Text) : Option Json := members.lookup name

abbrev single (name : Text) (value : Json) : Members := [(name, value)]

/-- The array index that a name writes: decimal digits without a leading zero, not too great. -/
def index? (name : Text) : Option Nat :=
  let cs := name.chars
  if cs = [] ∨ cs.any (fun c => !isDecimalDigit c) ∨ 10 < cs.length then none
  else if cs.head? = some '0' ∧ cs ≠ ['0'] then none
  else
    let n := digitsValue cs
    if n ≤ maxIndex then some n else none

def replace (name : Text) (value : Json) : Members → Members
  | [] => []
  | (k, v) :: rest => if k = name then (k, value) :: rest else (k, v) :: replace name value rest

/-- Puts a new member named by an index behind those of lower index. -/
def insertIndexed (index : Nat) (name : Text) (value : Json) : Members → Members
  | [] => [(name, value)]
  | (k, v) :: rest =>
    match index? k with
    | some i =>
      if i < index then (k, v) :: insertIndexed index name value rest
      else (name, value) :: (k, v) :: rest
    | none => (name, value) :: (k, v) :: rest

/-- Sets a member: in its place if the name is taken, else where a new name belongs. -/
def set (members : Members) (name : Text) (value : Json) : Members :=
  if (members.lookup name).isSome then replace name value members
  else match index? name with
    | some index => insertIndexed index name value members
    | none => members ++ [(name, value)]

/-- The members of an object written with the given names and values, in that order. -/
def ofPairs (pairs : List (Text × Json)) : Members :=
  pairs.foldl (fun members pair => set members pair.1 pair.2) []

def optional (name : Text) : Option Json → Members
  | some value => [(name, value)]
  | none => []

@[simp] theorem optional_none (name : Text) : optional name none = [] := rfl

@[simp] theorem optional_some (name : Text) (value : Json) :
    optional name (some value) = [(name, value)] := rfl

theorem map_fst_replace (name : Text) (value : Json) (members : Members) :
    (replace name value members).map (·.1) = members.map (·.1) := by
  induction members with
  | nil => rfl
  | cons m rest ih =>
    obtain ⟨k, v⟩ := m
    unfold replace
    split <;> simp [ih]

end Members

namespace Json

/-- Values under their positions, from a first position on. -/
def numbered : Nat → List Json → Members
  | _, [] => []
  | n, v :: rest => (toString n, v) :: numbered (n + 1) rest

/-- The members of a value taken as a record: those of an object; the items of a list and the units
of a string under their positions; none of any other value. -/
def entries : Json → Members
  | .object members => members
  | .list items => numbered 0 items
  | .string s => numbered 0 (s.units.map fun u => .string ⟨[u]⟩)
  | .null | .bool _ | .number _ => []

end Json

end SlackCourier
