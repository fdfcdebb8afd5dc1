import SlackCourier.Json.Same
import SlackCourier.Message.Quotes
import SlackCourier.Proofs.Json.Members

/-!
# When trees are the same

A tree is unambiguous when no object in it has two members of one name.  Among unambiguous trees of
one shape, equality up to the order of members is equality.  Escaping keeps the shape of a tree that
has no reserved members, so an escaped tree is the same as before only if it is the one before.
-/

namespace SlackCourier

namespace Json

mutual

/-- Whether every object in a tree has each of its names once. -/
def isUnambiguous : Json → Bool
  | .list items => isUnambiguousItems items
  | .object members => isUnambiguousMembers members
  | _ => true

def isUnambiguousItems : List Json → Bool
  | [] => true
  | v :: rest => isUnambiguous v && isUnambiguousItems rest

def isUnambiguousMembers : List (Text × Json) → Bool
  | [] => true
  | (k, v) :: rest => (rest.lookup k).isNone && isUnambiguous v && isUnambiguousMembers rest

end

mutual

/-- Whether two trees differ in their leaves alone: lists are as long as each other, and objects
have the same names in the same order. -/
def SameShape : Json → Json → Prop
  | .list a, .list b => SameShapeItems a b
  | .object a, .object b => SameShapeMembers a b
  | _, _ => True

def SameShapeItems : List Json → List Json → Prop
  | [], [] => True
  | a :: as, b :: bs => SameShape a b ∧ SameShapeItems as bs
  | _, _ => False

def SameShapeMembers : List (Text × Json) → List (Text × Json) → Prop
  | [], [] => True
  | (k, a) :: as, (l, b) :: bs => k = l ∧ SameShape a b ∧ SameShapeMembers as bs
  | _, _ => False

end

theorem isUnambiguousItems_iff {items : List Json} :
    isUnambiguousItems items = true ↔ ∀ v ∈ items, isUnambiguous v = true := by
  induction items with
  | nil => simp [isUnambiguousItems]
  | cons v rest ih => simp [isUnambiguousItems, ih]

theorem isUnambiguousMembers_iff {members : Members} :
    isUnambiguousMembers members = true ↔
      (members.map (·.1)).Nodup ∧ ∀ m ∈ members, isUnambiguous m.2 = true := by
  induction members with
  | nil => simp [isUnambiguousMembers]
  | cons m rest ih =>
    obtain ⟨k, v⟩ := m
    simp only [isUnambiguousMembers, Bool.and_eq_true, Option.isNone_iff_eq_none,
      lookup_eq_none_iff_not_mem, ih, List.map_cons, List.nodup_cons, List.forall_mem_cons]
    constructor
    · rintro ⟨⟨hnew, hvalue⟩, hnames, hvalues⟩
      exact ⟨⟨hnew, hnames⟩, hvalue, hvalues⟩
    · rintro ⟨⟨hnew, hnames⟩, hvalue, hvalues⟩
      exact ⟨⟨hnew, hvalue⟩, hnames, hvalues⟩

theorem lookup_eq_of_mem {members : Members} (h : (members.map (·.1)).Nodup) {name : Text}
    {value : Json} (hm : (name, value) ∈ members) : members.lookup name = some value := by
  induction members with
  | nil => cases hm
  | cons m rest ih =>
    obtain ⟨k, v⟩ := m
    rw [List.map_cons, List.nodup_cons] at h
    rw [List.lookup_cons]
    rcases List.mem_cons.1 hm with hfirst | hrest
    · obtain ⟨rfl, rfl⟩ := Prod.mk.inj hfirst
      simp
    · have hne : (name == k) = false := by
        rw [beq_eq_false_iff_ne]
        rintro rfl
        exact h.1 (List.mem_map.2 ⟨_, hrest, rfl⟩)
      rw [hne]
      exact ih h.2 hrest

mutual

theorem sameShape_refl : (value : Json) → SameShape value value
  | .list items => sameShapeItems_refl items
  | .object members => sameShapeMembers_refl members
  | .null | .bool _ | .number _ | .string _ => trivial

theorem sameShapeItems_refl : (items : List Json) → SameShapeItems items items
  | [] => trivial
  | v :: rest => ⟨sameShape_refl v, sameShapeItems_refl rest⟩

theorem sameShapeMembers_refl : (members : List (Text × Json)) → SameShapeMembers members members
  | [] => trivial
  | (_, v) :: rest => ⟨rfl, sameShape_refl v, sameShapeMembers_refl rest⟩

end

theorem length_eq_of_sameShape {as bs : Members} (h : SameShapeMembers as bs) :
    as.length = bs.length := by
  induction as generalizing bs with
  | nil =>
    cases bs with
    | nil => rfl
    | cons => exact h.elim
  | cons a as ih =>
    cases bs with
    | nil => exact h.elim
    | cons b bs => simp [ih h.2.2]

mutual

theorem same_iff : {a b : Json} → SameShape a b → isUnambiguous b = true → (same a b = true ↔ a = b)
  | .list as, .list bs, hshape, hb => by
    have hitems : sameItems as bs = true ↔ as = bs := sameItems_iff hshape hb
    simp [same, hitems]
  | .object as, .object bs, hshape, hb => by
    have hb := isUnambiguousMembers_iff.1 hb
    have hmembers : sameMembers as bs = true ↔ as = bs :=
      sameMembers_iff hshape (fun m hm => hb.2 m hm) (fun m hm => lookup_eq_of_mem hb.1 hm)
    simp [same, hmembers, length_eq_of_sameShape hshape]
  | .null, b, _, _ | .bool _, b, _, _ | .number _, b, _, _ | .string _, b, _, _ => by
    cases b <;> simp [same]
  | .list _, .null, _, _ | .list _, .bool _, _, _ | .list _, .number _, _, _
  | .list _, .string _, _, _ | .list _, .object _, _, _ => by simp [same]
  | .object _, .null, _, _ | .object _, .bool _, _, _ | .object _, .number _, _, _
  | .object _, .string _, _, _ | .object _, .list _, _, _ => by simp [same]

theorem sameItems_iff : {as bs : List Json} → SameShapeItems as bs →
    isUnambiguousItems bs = true → (sameItems as bs = true ↔ as = bs)
  | [], [], _, _ => by simp [sameItems]
  | a :: as, b :: bs, hshape, hb => by
    simp only [isUnambiguousItems, Bool.and_eq_true] at hb
    simp [sameItems, same_iff hshape.1 hb.1, sameItems_iff hshape.2 hb.2]
  | [], _ :: _, hshape, _ | _ :: _, [], hshape, _ => hshape.elim

/-- The second list is looked up in one that holds it, so that the induction can go past its
front. -/
theorem sameMembers_iff : {as bs other : List (Text × Json)} → SameShapeMembers as bs →
    (∀ m ∈ bs, isUnambiguous m.2 = true) → (∀ m ∈ bs, other.lookup m.1 = some m.2) →
      (sameMembers as other = true ↔ as = bs)
  | [], [], _, _, _, _ => by simp [sameMembers]
  | (k, a) :: as, (l, b) :: bs, other, ⟨hname, hvalue, hrest⟩, hb, hfound => by
    subst hname
    have hfirst : other.lookup k = some b := hfound (k, b) List.mem_cons_self
    have hsame := same_iff hvalue (hb (k, b) List.mem_cons_self)
    have hmore : sameMembers as other = true ↔ as = bs :=
      sameMembers_iff hrest (fun m hm => hb m (List.mem_cons_of_mem _ hm))
        (fun m hm => hfound m (List.mem_cons_of_mem _ hm))
    simp [sameMembers, hfirst, hsame, hmore]
  | [], _ :: _, _, hshape, _, _ | _ :: _, [], _, hshape, _, _ => hshape.elim

end

theorem same_object_iff {as bs : Members} (hshape : as.length = bs.length → SameShapeMembers as bs)
    (hb : isUnambiguousMembers bs = true) : same (.object as) (.object bs) = true ↔ as = bs := by
  by_cases hlength : as.length = bs.length
  · rw [same_iff (a := .object as) (b := .object bs) (hshape hlength) hb, Json.object.injEq]
  · have hne : as ≠ bs := fun h => hlength (congrArg List.length h)
    simp [same, hlength, hne]

theorem length_eq_of_sameItems {as bs : List Json} (h : sameItems as bs = true) :
    as.length = bs.length := by
  induction as generalizing bs with
  | nil =>
    cases bs with
    | nil => rfl
    | cons => cases h
  | cons a as ih =>
    cases bs with
    | nil => cases h
    | cons b bs =>
      simp only [sameItems, Bool.and_eq_true] at h
      simp [ih h.2]

theorem sameItems_map_iff {change : Members → Members} {list : List Members}
    (h : ∀ a ∈ list, (same (.object (change a)) (.object a) = true ↔ change a = a)) :
    sameItems ((list.map change).map .object) (list.map .object) = true ↔
      ∀ a ∈ list, change a = a := by
  induction list with
  | nil => simp [sameItems]
  | cons a rest ih =>
    rw [List.forall_mem_cons] at h
    simp only [List.map_cons, sameItems, Bool.and_eq_true, h.1, ih h.2, List.forall_mem_cons]

theorem isUnambiguous_of_lookup {members : Members} {name : Text} {value : Json}
    (h : isUnambiguousMembers members = true) (hfound : members.lookup name = some value) :
    value.isUnambiguous = true := by
  obtain ⟨before, after, rfl, -⟩ := List.lookup_eq_some_iff.1 hfound
  exact (isUnambiguousMembers_iff.1 h).2 (name, value) (by simp)

mutual

theorem isUnambiguous_dropReserved : {value : Json} → isUnambiguous value = true →
    isUnambiguous (dropReserved value) = true
  | .list items, h =>
    isUnambiguousItems_dropReservedItems (show isUnambiguousItems items = true from h)
  | .object members, h =>
    isUnambiguousMembers_dropReservedMembers (show isUnambiguousMembers members = true from h)
  | .null, _ | .bool _, _ | .number _, _ | .string _, _ => rfl

theorem isUnambiguousItems_dropReservedItems : {items : List Json} →
    isUnambiguousItems items = true → isUnambiguousItems (dropReservedItems items) = true
  | [], _ => rfl
  | v :: rest, h => by
    simp only [isUnambiguousItems, Bool.and_eq_true] at h
    simp [dropReservedItems, isUnambiguousItems, isUnambiguous_dropReserved h.1,
      isUnambiguousItems_dropReservedItems h.2]

theorem isUnambiguousMembers_dropReservedMembers : {members : List (Text × Json)} →
    isUnambiguousMembers members = true →
      isUnambiguousMembers (dropReservedMembers members) = true
  | [], _ => rfl
  | (k, v) :: rest, h => by
    simp only [isUnambiguousMembers, Bool.and_eq_true, Option.isNone_iff_eq_none] at h
    have hrest := isUnambiguousMembers_dropReservedMembers h.2
    unfold dropReservedMembers
    split_ifs with hname
    · exact hrest
    · simp [isUnambiguousMembers, lookup_dropReservedMembers hname, h.1.1,
        isUnambiguous_dropReserved h.1.2, hrest]

end

end Json

namespace Message

open Json

theorem sameShape_escapeString {value other : Json} (h : SameShape value other) :
    SameShape (escapeString value) other := by
  cases value with
  | string s => trivial
  | _ => exact h

mutual

theorem sameShape_escapeTree (keys : List Text) : {value : Json} → isPlain value = true →
    SameShape (escapeTree keys value) value
  | .list items, h => sameShapeItems_escapeItems keys (show isPlainItems items = true from h)
  | .object members, h =>
    sameShapeMembers_escapeMembers keys (show isPlainMembers members = true from h)
  | .null, _ | .bool _, _ | .number _, _ | .string _, _ => trivial

theorem sameShapeItems_escapeItems (keys : List Text) : {items : List Json} →
    isPlainItems items = true → SameShapeItems (escapeItems keys items) items
  | [], _ => trivial
  | v :: rest, h => by
    simp only [isPlainItems, Bool.and_eq_true] at h
    exact ⟨sameShape_escapeTree keys h.1, sameShapeItems_escapeItems keys h.2⟩

theorem sameShapeMembers_escapeMembers (keys : List Text) : {members : List (Text × Json)} →
    isPlainMembers members = true → SameShapeMembers (escapeMembers keys members) members
  | [], _ => trivial
  | (k, v) :: rest, h => by
    simp only [isPlainMembers, Bool.and_eq_true, bne_iff_ne] at h
    have hvalue := sameShape_escapeTree keys h.1.2
    unfold escapeMembers
    rw [if_neg h.1.1]
    refine ⟨rfl, ?_, sameShapeMembers_escapeMembers keys h.2⟩
    split_ifs
    · exact sameShape_escapeString hvalue
    · exact hvalue

end

end Message

end SlackCourier
