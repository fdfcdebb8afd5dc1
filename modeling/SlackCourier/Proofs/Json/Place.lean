import SlackCourier.Proofs.Json.Members

/-!
# Places in a tree

A tree is descended branch by branch: from an object to the member of a name, from a list to the
item at a position.  A path of branches leads to one place or to none.  What holds of leaves, and of
lists and objects as soon as it holds of all that stands in them, holds of every tree.
-/

namespace SlackCourier.Json

/-- Whether a value is neither a list nor an object. -/
def isLeaf : Json → Bool
  | .list _ | .object _ => false
  | _ => true

@[elab_as_elim]
theorem tree_induct {motive : Json → Prop} (leaf : ∀ value, value.isLeaf = true → motive value)
    (list : ∀ items, (∀ v ∈ items, motive v) → motive (.list items))
    (object : ∀ members : Members, (∀ m ∈ members, motive m.2) → motive (.object members))
    (value : Json) : motive value := by
  -- The other three motives are for items, for members, and for a member with its name.
  apply @Json.rec motive (fun items => ∀ v ∈ items, motive v)
    (fun members => ∀ m ∈ members, motive m.2) (fun m => motive m.2)
  case null => exact leaf .null rfl
  case bool => exact fun b => leaf (.bool b) rfl
  case number => exact fun d => leaf (.number d) rfl
  case string => exact fun s => leaf (.string s) rfl
  case list => exact list
  case object => exact object
  case nil => exact List.forall_mem_nil _
  case cons => exact fun v items hv hitems => List.forall_mem_cons.2 ⟨hv, hitems⟩
  case nil => exact List.forall_mem_nil _
  case cons => exact fun m members hm hmembers => List.forall_mem_cons.2 ⟨hm, hmembers⟩
  case mk => exact fun _ _ h => h

inductive Branch where
  | member (name : Text)
  | item (position : Nat)
  deriving DecidableEq, Repr

def child? : Json → Branch → Option Json
  | .object members, .member name => members.lookup name
  | .list items, .item position => items[position]?
  | _, _ => none

def at? (value : Json) : List Branch → Option Json
  | [] => some value
  | branch :: path => (value.child? branch).bind fun child => child.at? path

@[simp] theorem at?_nil (value : Json) : value.at? [] = some value := rfl

@[simp] theorem at?_cons (value : Json) (branch : Branch) (path : List Branch) :
    value.at? (branch :: path) = (value.child? branch).bind fun child => child.at? path := rfl

@[simp] theorem child?_member (members : Members) (name : Text) :
    (Json.object members).child? (.member name) = members.lookup name := rfl

@[simp] theorem child?_item (items : List Json) (position : Nat) :
    (Json.list items).child? (.item position) = items[position]? := rfl

theorem child?_of_isLeaf {value : Json} (h : value.isLeaf = true) (branch : Branch) :
    value.child? branch = none := by
  cases value with
  | list | object => cases h
  | _ => cases branch <;> rfl

theorem lookup_map_value (change : Text → Json → Json) (members : Members) (name : Text) :
    (members.map fun m => (m.1, change m.1 m.2)).lookup name =
      (members.lookup name).map (change name) := by
  induction members with
  | nil => rfl
  | cons m rest ih =>
    obtain ⟨key, value⟩ := m
    rw [List.map_cons, List.lookup_cons, List.lookup_cons]
    cases hkey : name == key with
    | true => rw [beq_iff_eq.1 hkey, Option.map_some]
    | false => exact ih

/-- Whether a path goes through a reserved name. -/
def isReservedPath (path : List Branch) : Bool := path.contains (.member reservedName)

theorem dropReserved_of_isLeaf {value : Json} (h : value.isLeaf = true) :
    dropReserved value = value := by
  cases value with
  | list | object => cases h
  | _ => rfl

theorem lookup_reserved_dropReservedMembers (members : Members) :
    (dropReservedMembers members).lookup reservedName = none := by
  induction members with
  | nil => rfl
  | cons m rest ih =>
    obtain ⟨key, value⟩ := m
    unfold dropReservedMembers
    split_ifs with hkey
    · exact ih
    · rw [List.lookup_cons, beq_eq_false_iff_ne.2 (Ne.symm hkey)]
      exact ih

theorem child?_dropReserved (value : Json) (branch : Branch) :
    (dropReserved value).child? branch =
      if branch = .member reservedName then none else (value.child? branch).map dropReserved := by
  cases value with
  | list items =>
    cases branch with
    | member name => simp [dropReserved, child?]
    | item position => simp [dropReserved, dropReservedItems_eq_map]
  | object members =>
    cases branch with
    | item position => simp [dropReserved, child?]
    | member name =>
      by_cases hname : name = reservedName
      · simp [dropReserved, hname, lookup_reserved_dropReservedMembers]
      · simp [dropReserved, hname, lookup_dropReservedMembers hname]
  | null | bool | number | string =>
    rw [dropReserved_of_isLeaf rfl, child?_of_isLeaf rfl, Option.map_none, ite_self]

theorem at?_dropReserved (value : Json) (path : List Branch) :
    (dropReserved value).at? path =
      if isReservedPath path then none else (value.at? path).map dropReserved := by
  induction path generalizing value with
  | nil => rfl
  | cons branch path ih =>
    rw [at?_cons, child?_dropReserved, at?_cons]
    by_cases hbranch : branch = .member reservedName
    · simp [isReservedPath, hbranch]
    · have hpath : isReservedPath (branch :: path) = isReservedPath path := by
        simp [isReservedPath, Ne.symm hbranch]
      rw [if_neg hbranch, hpath, Option.bind_map, Option.map_bind]
      cases value.child? branch with
      | none => simp
      | some child => exact ih child

end SlackCourier.Json
