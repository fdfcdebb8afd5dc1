import SlackCourier.Json.Reserved
import Mathlib.Tactic.SplitIfs

/-!
# Looking up members

What is found under a name in a list of members that was put together from others, or that has lost
its reserved members, and when what is found is a text, a list or an object.  Writing members one
after the other under new names lines them up.
-/

namespace SlackCourier

theorem Members.lookup_optional (name other : Text) (value : Option Json) :
    (Members.optional other value).lookup name = if name = other then value else none := by
  cases value with
  | none => simp
  | some value =>
    rw [Members.optional_some, List.lookup_cons]
    by_cases h : name = other
    · simp [h]
    · have hne : (name == other) = false := by simpa using h
      simp [h, hne]

namespace Json

theorem lookup_eq_none_iff_not_mem {α : Type} {members : List (Text × α)} {name : Text} :
    members.lookup name = none ↔ name ∉ members.map (·.1) := by
  rw [List.lookup_eq_none_iff, List.mem_map]
  constructor
  · rintro h ⟨m, hm, rfl⟩
    exact bne_iff_ne.1 (h m hm) rfl
  · intro h m hm
    rw [bne_iff_ne]
    rintro rfl
    exact h ⟨m, hm, rfl⟩

theorem mem_names_iff {α : Type} {members : List (Text × α)} {name : Text} :
    name ∈ members.map (·.1) ↔ ∃ value, members.lookup name = some value := by
  rw [← Option.isSome_iff_exists, ← Option.ne_none_iff_isSome, Ne, lookup_eq_none_iff_not_mem,
    Decidable.not_not]

theorem bind_text?_eq_some_iff {found : Option Json} {text : Text} :
    found.bind Json.text? = some text ↔ found = some (.string text) := by
  cases found with
  | none => simp
  | some value => cases value <;> simp [text?]

@[simp] theorem dropReserved_eq_bool_iff {value : Json} {b : Bool} :
    dropReserved value = .bool b ↔ value = .bool b := by
  cases value <;> simp [dropReserved]

theorem lookup_dropReservedMembers {name : Text} (hname : name ≠ reservedName)
    (members : Members) :
    (dropReservedMembers members).lookup name = (members.lookup name).map dropReserved := by
  induction members with
  | nil => rfl
  | cons member rest ih =>
    obtain ⟨key, value⟩ := member
    unfold dropReservedMembers
    rw [List.lookup_cons]
    split_ifs with hkey
    · have hne : (name == key) = false := by
        rw [hkey]
        simpa using hname
      rw [hne, ih]
    · rw [List.lookup_cons]
      cases name == key <;> simp [ih]

@[simp] theorem dropReserved_eq_object_iff {value : Json} {members : Members} :
    dropReserved value = .object members ↔
      ∃ raw, value = .object raw ∧ members = dropReservedMembers raw := by
  cases value <;> simp [dropReserved, eq_comm]

theorem dropReservedItems_eq_map (items : List Json) :
    dropReservedItems items = items.map dropReserved := by
  induction items with
  | nil => rfl
  | cons value rest ih => rw [dropReservedItems, ih, List.map_cons]

@[simp] theorem dropReserved_eq_list_iff {value : Json} {items : List Json} :
    dropReserved value = .list items ↔
      ∃ raw, value = .list raw ∧ raw.map dropReserved = items := by
  cases value <;> simp [dropReserved, dropReservedItems_eq_map]

end Json

namespace Members

theorem get?_dropReservedMembers {name : Text} (hname : name ≠ Json.reservedName)
    (members : Members) : Members.get? (Json.dropReservedMembers members) name =
      (members.get? name).map Json.dropReserved :=
  Json.lookup_dropReservedMembers hname members

theorem set_of_fresh {members : Members} {name : Text} (hfresh : name ∉ members.map (·.1))
    (hindex : index? name = none) (value : Json) :
    set members name value = members ++ [(name, value)] := by
  have hlookup := Json.lookup_eq_none_iff_not_mem.2 hfresh
  simp [set, hlookup, hindex]

theorem foldl_set_of_fresh {members added : Members}
    (hnames : ((members ++ added).map (·.1)).Nodup)
    (hindex : ∀ m ∈ added, index? m.1 = none) :
    added.foldl (fun members pair => set members pair.1 pair.2) members = members ++ added := by
  induction added generalizing members with
  | nil => simp
  | cons first rest ih =>
    obtain ⟨name, value⟩ := first
    have hfresh : name ∉ members.map (·.1) := by
      rw [List.map_append, List.map_cons] at hnames
      exact fun hmem => (List.nodup_append.1 hnames).2.2 name hmem name (List.mem_cons_self ..) rfl
    rw [List.foldl_cons, set_of_fresh hfresh (hindex _ (List.mem_cons_self ..))]
    rw [ih (by simpa using hnames) fun m hm => hindex m (List.mem_cons_of_mem _ hm)]
    simp

/-- The members of places in a row: each place gives one if something stands in it. -/
def lineUp (places : List (Text × Option Json)) : Members :=
  places.flatMap fun place => optional place.1 place.2

theorem mem_lineUp_iff {places : List (Text × Option Json)} {name : Text} {value : Json} :
    (name, value) ∈ lineUp places ↔ (name, some value) ∈ places := by
  unfold lineUp
  rw [List.mem_flatMap]
  constructor
  · rintro ⟨⟨other, found⟩, hplace, hmem⟩
    cases found with
    | none => cases hmem
    | some found =>
      rw [optional_some, List.mem_singleton] at hmem
      cases hmem
      exact hplace
  · intro hplace
    exact ⟨(name, some value), hplace, List.mem_singleton.2 rfl⟩

theorem names_lineUp (places : List (Text × Option Json)) :
    ((lineUp places).map (·.1)).Sublist (places.map (·.1)) := by
  induction places with
  | nil => exact List.Sublist.refl _
  | cons place rest ih =>
    obtain ⟨name, value⟩ := place
    cases value with
    | none => exact ih.cons name
    | some value => exact ih.cons_cons name

theorem lookup_lineUp {places : List (Text × Option Json)} (hnames : (places.map (·.1)).Nodup)
    {name : Text} {value : Option Json} (h : (name, value) ∈ places) :
    (lineUp places).lookup name = value := by
  induction places with
  | nil => cases h
  | cons place rest ih =>
    obtain ⟨first, given⟩ := place
    obtain ⟨hfirst, hrest⟩ := List.nodup_cons.1 hnames
    rw [show lineUp ((first, given) :: rest) = optional first given ++ lineUp rest from rfl,
      List.lookup_append, lookup_optional]
    rcases List.mem_cons.1 h with heq | hmem
    · obtain ⟨rfl, rfl⟩ := Prod.mk.inj heq
      have hlater : (lineUp rest).lookup name = none :=
        Json.lookup_eq_none_iff_not_mem.2 fun hmem => hfirst ((names_lineUp rest).subset hmem)
      rw [if_pos rfl, hlater, Option.or_none]
    · have hne : name ≠ first := by
        rintro rfl
        exact hfirst (List.mem_map.2 ⟨_, hmem, rfl⟩)
      rw [if_neg hne, Option.none_or, ih hrest hmem]

theorem ofPairs_eq_self {members : Members} (hnames : (members.map (·.1)).Nodup)
    (hindex : ∀ m ∈ members, index? m.1 = none) : ofPairs members = members :=
  foldl_set_of_fresh hnames hindex

theorem ofPairs_rewrite {name : Text} {between after : Members} (old new : Json)
    (hnames : (((name, old) :: between ++ after).map (·.1)).Nodup)
    (hindex : ∀ m ∈ (name, old) :: between ++ after, index? m.1 = none) :
    ofPairs ((name, old) :: between ++ (name, new) :: after) = (name, new) :: between ++ after := by
  have hfirst : ofPairs ((name, old) :: between) = (name, old) :: between := by
    apply ofPairs_eq_self
    · rw [List.map_append] at hnames
      exact (List.nodup_append.1 hnames).1
    · exact fun m hm => hindex m (List.mem_append_left _ hm)
  have hset : set ((name, old) :: between) name new = (name, new) :: between := by
    simp [set, replace]
  unfold ofPairs at hfirst ⊢
  rw [List.foldl_append, hfirst, List.foldl_cons, hset]
  apply foldl_set_of_fresh
  · simpa using hnames
  · exact fun m hm => hindex m (List.mem_append_right _ hm)

end Members

end SlackCourier
