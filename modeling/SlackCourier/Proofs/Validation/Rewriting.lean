import Mathlib.Data.List.Forall2
import SlackCourier.Proofs.Task.Acceptance

/-!
# Writing out what was accepted

A check is settled by a way to write out its results when whatever it accepted is accepted again as
it is written, with the same result.  So is a check that accepts nothing but what is written so.
-/

namespace SlackCourier.Check

variable {α : Type} {check : Check α} {write : α → Json} {given : Option Json}

/-- Whether what a check made of a value is made again of it as it is written out. -/
def Settles (check : Check α) (write : α → Json) : Prop :=
  ∀ given value, check given = .ok value → check (some (write value)) = .ok value

/-- Whether a check accepts its results alone, as they are written out. -/
def IsVerbatim (check : Check α) (write : α → Json) : Prop :=
  ∀ given value, check given = .ok value → given = some (write value)

theorem IsVerbatim.settles (h : check.IsVerbatim write) : check.Settles write := by
  intro given value hvalue
  rw [← h given value hvalue]
  exact hvalue

theorem isVerbatim_text : text.IsVerbatim .string := fun _ _ => text_eq_ok_iff.1

theorem isVerbatim_textOfAtLeast (least : Nat) (message : Text) :
    (textOfAtLeast least message).IsVerbatim .string :=
  fun _ _ h => (textOfAtLeast_eq_ok_iff.1 h).1

theorem isVerbatim_truth : truth.IsVerbatim .bool := by
  intro given value h
  cases given with
  | none => cases h
  | some found =>
    cases found with
    | bool b => rw [Except.ok.inj h]
    | _ => cases h

theorem isVerbatim_choice {choices : List (Text × α)} {word : α → Text}
    (hwords : ∀ entry ∈ choices, entry.1 = word entry.2) :
    (choice choices).IsVerbatim fun a => .string (word a) := by
  intro given a h
  cases given with
  | none => cases h
  | some found =>
    cases found with
    | string s =>
      simp only [choice, present] at h
      split at h
      · rename_i value hvalue
        obtain ⟨before, after, hchoices, -⟩ := List.lookup_eq_some_iff.1 hvalue
        have hword : s = word value := hwords (s, value) (by simp [hchoices])
        rw [← Except.ok.inj h, hword]
      · cases h
    | _ => cases h

theorem IsVerbatim.withDefault (h : check.IsVerbatim write) {default value : α}
    (hvalue : Check.withDefault default check given = .ok value) :
    write value = given.getD (write default) := by
  cases given with
  | none => rw [← Except.ok.inj hvalue, Option.getD_none]
  | some found =>
    have hfound := h (some found) value hvalue
    rw [Option.some.inj hfound, Option.getD_some]

theorem settles_object : object.Settles .object := by
  intro given members h
  cases given with
  | none => cases h
  | some value =>
    cases value with
    | object raw =>
      rw [← Except.ok.inj h]
      have hplain := Json.isPlainMembers_dropReservedMembers raw
      exact congrArg Except.ok (Json.dropReservedMembers_eq_self hplain)
    | _ => cases h

theorem listOf_object_eq_dropReserved {value : Json} {list : List Members}
    (h : listOf object (some value) = .ok list) :
    Json.list (list.map .object) = Json.dropReserved value := by
  cases value with
  | list items =>
    have hitems : items.map (fun item => object (some item)) = list.map .ok := gather_eq_ok h
    have hobjects : items.map Json.dropReserved = list.map .object := by
      rw [← List.forall₂_eq_eq_eq, List.forall₂_map_left_iff, List.forall₂_map_right_iff]
        at hitems ⊢
      refine hitems.imp fun item members hitem => ?_
      cases item with
      | object raw => rw [Json.dropReserved, Except.ok.inj hitem]
      | _ => cases hitem
    rw [Json.dropReserved, Json.dropReservedItems_eq_map, hobjects]
  | _ => cases h

theorem Settles.listOf (h : check.Settles write) :
    (listOf check).Settles fun values => .list (values.map write) := by
  intro given values hvalues
  cases given with
  | none => cases hvalues
  | some value =>
    cases value with
    | list items =>
      have hitems : items.map (fun item => check (some item)) = values.map .ok :=
        gather_eq_ok hvalues
      have hagain : ∀ value ∈ values, check (some (write value)) = .ok value := by
        intro value hvalue
        have hmem : .ok value ∈ items.map fun item => check (some item) :=
          hitems ▸ List.mem_map_of_mem hvalue
        obtain ⟨item, -, hitem⟩ := List.mem_map.1 hmem
        exact h (some item) value hitem
      have hmap : (values.map write).map (fun item => check (some item)) = values.map .ok := by
        rw [List.map_map]
        exact List.map_congr_left hagain
      exact (congrArg gather hmap).trans (gather_ok values)
    | _ => cases hvalues

theorem Settles.optional (h : check.Settles write) {result : Option α}
    (hresult : Check.optional check given = .ok result) :
    Check.optional check (result.map write) = .ok result := by
  rcases optional_eq_ok_iff.1 hresult with ⟨-, rfl⟩ | ⟨-, part, -, hpart, rfl⟩
  · rfl
  · exact optional_eq_ok_iff.2 (Or.inr ⟨write part, part, rfl, h given part hpart, rfl⟩)

theorem Settles.withDefault (h : check.Settles write) {default : α}
    (hdefault : check (some (write default)) = .ok default) {value : α}
    (hvalue : Check.withDefault default check given = .ok value) :
    Check.withDefault default check (some (write value)) = .ok value := by
  cases given with
  | none =>
    rw [← Except.ok.inj hvalue]
    exact hdefault
  | some found => exact h (some found) value hvalue

/-- An optional part that is written out in its place among others is made again of the whole. -/
theorem Settles.lookup_lineUp (h : check.Settles write) {places : List (Text × Option Json)}
    (hnames : (places.map (·.1)).Nodup) {name : Text} {result : Option α}
    (hresult : Check.optional check given = .ok result)
    (hplace : (name, result.map write) ∈ places) :
    Check.optional check ((Members.lineUp places).lookup name) = .ok result := by
  rw [Members.lookup_lineUp hnames hplace]
  exact h.optional hresult

end SlackCourier.Check
