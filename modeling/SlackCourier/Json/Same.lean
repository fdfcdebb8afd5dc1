import SlackCourier.Json.Value

/-!
# Equality of trees up to member order

Two trees are the same when they have the same kind, equal strings, booleans or numbers, lists that
agree item by item, and objects with the same names and the same value under each.  The two zeros
are different numbers.
-/

namespace SlackCourier.Json

mutual

def same : Json → Json → Bool
  | .null, .null => true
  | .bool a, .bool b => a == b
  | .number a, .number b => a == b
  | .string a, .string b => a == b
  | .list a, .list b => sameItems a b
  | .object a, .object b => a.length == b.length && sameMembers a b
  | _, _ => false

def sameItems : List Json → List Json → Bool
  | [], [] => true
  | a :: as, b :: bs => same a b && sameItems as bs
  | _, _ => false

/-- Whether every member of the first list has a counterpart in the second. -/
def sameMembers : List (Text × Json) → List (Text × Json) → Bool
  | [], _ => true
  | (k, v) :: rest, other =>
    (match other.lookup k with
      | some w => same v w
      | none => false) && sameMembers rest other

end

def sameOption : Option Json → Option Json → Bool
  | none, none => true
  | some a, some b => same a b
  | _, _ => false

end SlackCourier.Json
