import SlackCourier.Proofs.Json.Place
import SlackCourier.Proofs.Json.Same
import Mathlib.Data.List.Perm.Subperm

/-!
# Trees that are alike

Two trees are alike when they have the same leaves at the same places, whatever the order in which
objects have their members.  Trees that are alike are equivalent, and a tree is alike to every tree
that comes of it by changing the order of members somewhere in it.  The comparison of trees decides
whether unambiguous trees are alike.
-/

namespace SlackCourier.Json

/-- Equality of trees, whatever the order of members: lists agree item by item, objects have the
same names and agree under each of them. -/
inductive Alike : Json → Json → Prop
  | null : Alike .null .null
  | bool (b : Bool) : Alike (.bool b) (.bool b)
  | number (d : Double) : Alike (.number d) (.number d)
  | string (s : Text) : Alike (.string s) (.string s)
  | list {as bs : List Json} : as.length = bs.length →
      (∀ (position : Nat) (a b : Json), as[position]? = some a → bs[position]? = some b →
        Alike a b) →
      Alike (.list as) (.list bs)
  | object {as bs : Members} : (∀ name, name ∈ as.map (·.1) ↔ name ∈ bs.map (·.1)) →
      (∀ (name : Text) (a b : Json), as.lookup name = some a → bs.lookup name = some b →
        Alike a b) →
      Alike (.object as) (.object bs)

/-- Whether a tree comes of another by changing the order of members of objects in it, one after the
other. -/
inductive Rearranged : Json → Json → Prop
  | refl (value : Json) : Rearranged value value
  | trans {a b c : Json} : Rearranged a b → Rearranged b c → Rearranged a c
  | members {as bs : Members} : as.Perm bs → Rearranged (.object as) (.object bs)
  | item {before after : List Json} {v w : Json} : Rearranged v w →
      Rearranged (.list (before ++ v :: after)) (.list (before ++ w :: after))
  | member {before after : Members} {name : Text} {v w : Json} : Rearranged v w →
      Rearranged (.object (before ++ (name, v) :: after)) (.object (before ++ (name, w) :: after))

theorem mem_of_lookup {members : Members} {name : Text} {value : Json}
    (h : members.lookup name = some value) : (name, value) ∈ members := by
  obtain ⟨before, after, rfl, -⟩ := List.lookup_eq_some_iff.1 h
  exact List.mem_append_right _ List.mem_cons_self

theorem Alike.refl (value : Json) : Alike value value := by
  induction value using tree_induct with
  | leaf value h =>
    cases value with
    | list | object => cases h
    | null => exact .null
    | bool b => exact .bool b
    | number d => exact .number d
    | string s => exact .string s
  | list items ih =>
    refine .list rfl fun position a b ha hb => ?_
    obtain rfl := Option.some.inj (ha.symm.trans hb)
    exact ih a (List.mem_of_getElem? ha)
  | object members ih =>
    refine .object (fun _ => Iff.rfl) fun name a b ha hb => ?_
    obtain rfl := Option.some.inj (ha.symm.trans hb)
    exact ih (name, a) (mem_of_lookup ha)

theorem Alike.symm {a b : Json} (h : Alike a b) : Alike b a := by
  induction h with
  | null => exact .null
  | bool b => exact .bool b
  | number d => exact .number d
  | string s => exact .string s
  | list hlength _ ih =>
    exact .list hlength.symm fun position b a hb ha => ih position a b ha hb
  | object hnames _ ih =>
    exact .object (fun name => (hnames name).symm) fun name b a hb ha => ih name a b ha hb

theorem Alike.trans {a b c : Json} (hab : Alike a b) (hbc : Alike b c) : Alike a c := by
  induction hab generalizing c with
  | null | bool | number | string => exact hbc
  | list hlength _ ih =>
    cases hbc with
    | list hlength' hitems =>
      refine .list (hlength.trans hlength') fun position x z hx hz => ?_
      obtain ⟨hposition, -⟩ := List.getElem?_eq_some_iff.1 hz
      have hy := List.getElem?_eq_getElem (hlength' ▸ hposition)
      exact ih position x _ hx hy (hitems position _ z hy hz)
  | object hnames _ ih =>
    cases hbc with
    | object hnames' hmembers =>
      refine .object (fun name => (hnames name).trans (hnames' name)) fun name x z hx hz => ?_
      obtain ⟨y, hy⟩ := mem_names_iff.1 ((hnames name).1 (mem_names_iff.2 ⟨x, hx⟩))
      exact ih name x y hx hy (hmembers name y z hy hz)

theorem lookup_eq_of_perm {as bs : Members} (hnames : (as.map (·.1)).Nodup) (h : as.Perm bs)
    (name : Text) : as.lookup name = bs.lookup name := by
  have hother : (bs.map (·.1)).Nodup := (h.map _).nodup_iff.1 hnames
  cases hfound : as.lookup name with
  | some value =>
    exact (lookup_eq_of_mem hother (h.subset (mem_of_lookup hfound))).symm
  | none =>
    rw [lookup_eq_none_iff_not_mem] at hfound
    exact (lookup_eq_none_iff_not_mem.2 fun hmem => hfound ((h.map _).mem_iff.2 hmem)).symm

theorem alike_of_perm {as bs : Members} (hnames : (as.map (·.1)).Nodup) (h : as.Perm bs) :
    Alike (.object as) (.object bs) := by
  refine .object (fun name => (h.map _).mem_iff) fun name a b ha hb => ?_
  rw [lookup_eq_of_perm hnames h] at ha
  obtain rfl := Option.some.inj (ha.symm.trans hb)
  exact .refl a

theorem Alike.item {v w : Json} (h : Alike v w) (before after : List Json) :
    Alike (.list (before ++ v :: after)) (.list (before ++ w :: after)) := by
  refine .list (by simp) fun position a b ha hb => ?_
  by_cases hposition : position = before.length
  · subst hposition
    simp only [List.getElem?_append_right (Nat.le_refl _),
      Nat.sub_self, List.getElem?_cons_zero, Option.some.injEq] at ha hb
    exact ha ▸ hb ▸ h
  · have hsame : (before ++ v :: after)[position]? = (before ++ w :: after)[position]? := by
      rcases Nat.lt_or_gt_of_ne hposition with hbefore | hbehind
      · rw [List.getElem?_append_left hbefore, List.getElem?_append_left hbefore]
      · obtain ⟨index, rfl⟩ := Nat.exists_eq_add_of_lt hbehind
        rw [List.getElem?_append_right (by omega), List.getElem?_append_right (by omega),
          show before.length + index + 1 - before.length = index + 1 by omega,
          List.getElem?_cons_succ, List.getElem?_cons_succ]
    rw [hsame] at ha
    obtain rfl := Option.some.inj (ha.symm.trans hb)
    exact .refl a

theorem Alike.member {v w : Json} (h : Alike v w) (before after : Members) (name : Text) :
    Alike (.object (before ++ (name, v) :: after)) (.object (before ++ (name, w) :: after)) := by
  refine .object (by simp) fun other a b ha hb => ?_
  rw [List.lookup_append] at ha hb
  cases hbefore : before.lookup other with
  | some found =>
    rw [hbefore] at ha hb
    obtain rfl := Option.some.inj (ha.symm.trans hb)
    exact .refl a
  | none =>
    rw [hbefore, Option.none_or, List.lookup_cons] at ha hb
    cases hname : other == name with
    | true =>
      rw [hname] at ha hb
      exact Option.some.inj ha ▸ Option.some.inj hb ▸ h
    | false =>
      rw [hname] at ha hb
      obtain rfl := Option.some.inj (ha.symm.trans hb)
      exact .refl a

theorem isUnambiguousMembers_of_perm {as bs : Members} (h : as.Perm bs)
    (has : isUnambiguousMembers as = true) : isUnambiguousMembers bs = true := by
  obtain ⟨hnames, hvalues⟩ := isUnambiguousMembers_iff.1 has
  exact isUnambiguousMembers_iff.2
    ⟨(h.map _).nodup_iff.1 hnames, fun m hm => hvalues m (h.mem_iff.2 hm)⟩

/-- An unambiguous tree is alike to what comes of it by changing the order of members, and stays
unambiguous. -/
theorem Rearranged.alike {a b : Json} (h : Rearranged a b) (ha : a.isUnambiguous = true) :
    Alike a b ∧ b.isUnambiguous = true := by
  induction h with
  | refl value => exact ⟨.refl value, ha⟩
  | trans _ _ ihab ihbc =>
    obtain ⟨hab, hb⟩ := ihab ha
    obtain ⟨hbc, hc⟩ := ihbc hb
    exact ⟨hab.trans hbc, hc⟩
  | members hperm =>
    exact ⟨alike_of_perm (isUnambiguousMembers_iff.1 ha).1 hperm,
      isUnambiguousMembers_of_perm hperm ha⟩
  | item _ ih =>
    have hitems := isUnambiguousItems_iff.1 ha
    rw [List.forall_mem_append, List.forall_mem_cons] at hitems
    obtain ⟨hbefore, hv, hafter⟩ := hitems
    obtain ⟨halike, hw⟩ := ih hv
    refine ⟨halike.item _ _, isUnambiguousItems_iff.2 ?_⟩
    rw [List.forall_mem_append, List.forall_mem_cons]
    exact ⟨hbefore, hw, hafter⟩
  | member _ ih =>
    obtain ⟨hnames, hvalues⟩ := isUnambiguousMembers_iff.1 ha
    rw [List.forall_mem_append, List.forall_mem_cons] at hvalues
    obtain ⟨hbefore, hv, hafter⟩ := hvalues
    obtain ⟨halike, hw⟩ := ih hv
    refine ⟨halike.member _ _ _, isUnambiguousMembers_iff.2 ⟨by simpa using hnames, ?_⟩⟩
    rw [List.forall_mem_append, List.forall_mem_cons]
    exact ⟨hbefore, hw, hafter⟩

theorem sameItems_iff_getElem? {as bs : List Json} :
    sameItems as bs = true ↔ as.length = bs.length ∧
      ∀ (position : Nat) (a b : Json), as[position]? = some a → bs[position]? = some b →
        same a b = true := by
  induction as generalizing bs with
  | nil => cases bs <;> simp [sameItems]
  | cons first rest ih =>
    cases bs with
    | nil => simp [sameItems]
    | cons other more =>
      rw [sameItems, Bool.and_eq_true, ih, List.length_cons, List.length_cons,
        Nat.add_right_cancel_iff]
      constructor
      · rintro ⟨hfirst, hlength, hrest⟩
        refine ⟨hlength, fun position a b ha hb => ?_⟩
        cases position with
        | zero => exact Option.some.inj ha ▸ Option.some.inj hb ▸ hfirst
        | succ position => exact hrest position a b ha hb
      · rintro ⟨hlength, hitems⟩
        exact ⟨hitems 0 first other rfl rfl, hlength, fun position => hitems (position + 1)⟩

theorem sameMembers_iff_lookup {as bs : Members} :
    sameMembers as bs = true ↔ ∀ m ∈ as, ∃ b, bs.lookup m.1 = some b ∧ same m.2 b = true := by
  induction as with
  | nil => simp [sameMembers]
  | cons m rest ih =>
    obtain ⟨name, value⟩ := m
    rw [sameMembers, Bool.and_eq_true, ih, List.forall_mem_cons]
    refine and_congr_left fun _ => ?_
    cases bs.lookup name <;> simp

/-- Objects of different names each have the same ones as soon as they are as many and one has them
all. -/
theorem names_iff {as bs : Members} (has : (as.map (·.1)).Nodup)
    (hlength : as.length = bs.length) (hsubset : as.map (·.1) ⊆ bs.map (·.1)) (name : Text) :
    name ∈ as.map (·.1) ↔ name ∈ bs.map (·.1) := by
  have hperm := (has.subperm hsubset).perm_of_length_le (by simp [hlength])
  exact hperm.mem_iff

theorem length_eq_of_names {as bs : Members} (has : (as.map (·.1)).Nodup)
    (hbs : (bs.map (·.1)).Nodup) (hnames : ∀ name, name ∈ as.map (·.1) ↔ name ∈ bs.map (·.1)) :
    as.length = bs.length := by
  have hperm := (List.perm_ext_iff_of_nodup has hbs).2 hnames
  simpa using hperm.length_eq

theorem same_object_iff_alike {as bs : Members} (has : isUnambiguousMembers as = true)
    (hbs : isUnambiguousMembers bs = true)
    (ih : ∀ m ∈ as, ∀ b, b.isUnambiguous = true → (same m.2 b = true ↔ Alike m.2 b)) :
    same (.object as) (.object bs) = true ↔ Alike (.object as) (.object bs) := by
  obtain ⟨hasnames, hasvalues⟩ := isUnambiguousMembers_iff.1 has
  obtain ⟨hbsnames, hbsvalues⟩ := isUnambiguousMembers_iff.1 hbs
  rw [same, Bool.and_eq_true, beq_iff_eq, sameMembers_iff_lookup]
  constructor
  · rintro ⟨hlength, hmembers⟩
    have hsubset : as.map (·.1) ⊆ bs.map (·.1) := by
      intro name hname
      obtain ⟨m, hm, rfl⟩ := List.mem_map.1 hname
      obtain ⟨b, hb, -⟩ := hmembers m hm
      exact mem_names_iff.2 ⟨b, hb⟩
    refine .object (names_iff hasnames hlength hsubset) fun name a b ha hb => ?_
    have hmem := mem_of_lookup ha
    obtain ⟨other, hother, hsame⟩ := hmembers (name, a) hmem
    obtain rfl := Option.some.inj (hb.symm.trans hother)
    exact (ih _ hmem b (isUnambiguous_of_lookup hbs hb)).1 hsame
  · rintro (_ | _ | _ | _ | _ | ⟨hnames, hmembers⟩)
    refine ⟨length_eq_of_names hasnames hbsnames hnames, fun m hm => ?_⟩
    obtain ⟨b, hb⟩ := mem_names_iff.1 ((hnames m.1).1 (List.mem_map_of_mem hm))
    have hbclear := isUnambiguous_of_lookup hbs hb
    exact ⟨b, hb, (ih m hm b hbclear).2 (hmembers m.1 m.2 b (lookup_eq_of_mem hasnames hm) hb)⟩

theorem same_list_iff_alike {as bs : List Json} (hbs : isUnambiguousItems bs = true)
    (ih : ∀ a ∈ as, ∀ b, b.isUnambiguous = true → (same a b = true ↔ Alike a b)) :
    same (.list as) (.list bs) = true ↔ Alike (.list as) (.list bs) := by
  have hclear := isUnambiguousItems_iff.1 hbs
  rw [same, sameItems_iff_getElem?]
  constructor
  · rintro ⟨hlength, hitems⟩
    refine .list hlength fun position a b ha hb => ?_
    exact (ih a (List.mem_of_getElem? ha) b (hclear b (List.mem_of_getElem? hb))).1
      (hitems position a b ha hb)
  · rintro (_ | _ | _ | _ | ⟨hlength, hitems⟩)
    refine ⟨hlength, fun position a b ha hb => ?_⟩
    exact (ih a (List.mem_of_getElem? ha) b (hclear b (List.mem_of_getElem? hb))).2
      (hitems position a b ha hb)

theorem same_leaf_iff_alike {a : Json} (h : a.isLeaf = true) (b : Json) :
    same a b = true ↔ Alike a b := by
  have halike : Alike a b ↔ a = b := by
    constructor
    · rintro (_ | _ | _ | _ | _ | _) <;> first | rfl | cases h
    · rintro rfl
      exact .refl a
  rw [halike]
  cases a with
  | list | object => cases h
  | null | bool | number | string => cases b <;> simp [same]

theorem same_iff_alike {a b : Json} (ha : a.isUnambiguous = true) (hb : b.isUnambiguous = true) :
    same a b = true ↔ Alike a b := by
  induction a using tree_induct generalizing b with
  | leaf a h => exact same_leaf_iff_alike h b
  | list items ih =>
    cases b with
    | list others =>
      exact same_list_iff_alike hb fun a hmem b => ih a hmem (isUnambiguousItems_iff.1 ha a hmem)
    | _ =>
      simp only [same, Bool.false_eq_true, false_iff]
      rintro ⟨⟩
  | object members ih =>
    cases b with
    | object others =>
      exact same_object_iff_alike ha hb fun m hmem b =>
        ih m hmem ((isUnambiguousMembers_iff.1 ha).2 m hmem)
    | _ =>
      simp only [same, Bool.false_eq_true, false_iff]
      rintro ⟨⟩

/-- Whether two values are both missing or alike. -/
abbrev Agree : Option Json → Option Json → Prop := Option.Rel Alike

theorem Agree.refl (a : Option Json) : Agree a a := by
  cases a with
  | none => exact .none
  | some value => exact .some (.refl value)

theorem Agree.symm {a b : Option Json} (h : Agree a b) : Agree b a := by
  cases h with
  | none => exact .none
  | some h => exact .some h.symm

theorem Agree.trans {a b c : Option Json} (hab : Agree a b) (hbc : Agree b c) : Agree a c := by
  cases hab with
  | none => exact hbc
  | some hab =>
    cases hbc with
    | some hbc => exact .some (hab.trans hbc)

theorem Agree.congr {a a' b b' : Option Json} (ha : Agree a a') (hb : Agree b b') :
    Agree a b ↔ Agree a' b' :=
  ⟨fun h => (ha.symm.trans h).trans hb, fun h => (ha.trans h).trans hb.symm⟩

/-- Whether a value that may be missing is unambiguous if it is there. -/
def IsClear (value : Option Json) : Prop := ∀ v, value = some v → v.isUnambiguous = true

theorem sameOption_iff_agree {a b : Option Json} (ha : IsClear a) (hb : IsClear b) :
    sameOption a b = true ↔ Agree a b := by
  cases a with
  | none => cases b <;> simp [sameOption]
  | some v =>
    cases b with
    | none => simp [sameOption]
    | some w =>
      rw [sameOption, same_iff_alike (ha v rfl) (hb w rfl)]
      simp

theorem agree_of_rearranged {a b : Option Json} (h : Option.Rel Rearranged a b)
    (ha : IsClear a) : Agree a b ∧ IsClear b := by
  cases h with
  | none => exact ⟨.none, ha⟩
  | some h =>
    obtain ⟨halike, hclear⟩ := h.alike (ha _ rfl)
    refine ⟨.some halike, fun v hv => ?_⟩
    rw [← Option.some.inj hv]
    exact hclear

theorem Alike.lookup {as bs : Members} (h : Alike (.object as) (.object bs)) (name : Text) :
    Agree (as.lookup name) (bs.lookup name) := by
  cases h with
  | object hnames hmembers =>
    cases ha : as.lookup name with
    | some a =>
      obtain ⟨b, hb⟩ := mem_names_iff.1 ((hnames name).1 (mem_names_iff.2 ⟨a, ha⟩))
      rw [hb]
      exact .some (hmembers name a b ha hb)
    | none =>
      rw [lookup_eq_none_iff_not_mem, hnames, ← lookup_eq_none_iff_not_mem] at ha
      rw [ha]
      exact .none

end SlackCourier.Json
