import SlackCourier.Json.Reader
import SlackCourier.Proofs.Json.Same
import SlackCourier.Text.Utf8

/-!
# What is read from JSON text

A tree that is read from text is unambiguous: a name that is written twice in an object is kept
once.  And text that can be read does not begin with a byte order mark.
-/

namespace SlackCourier

namespace Members

theorem perm_insertIndexed (index : Nat) (name : Text) (value : Json) (members : Members) :
    (insertIndexed index name value members).Perm ((name, value) :: members) := by
  induction members with
  | nil => exact .refl _
  | cons m rest ih =>
    obtain ⟨k, v⟩ := m
    unfold insertIndexed
    split
    · split_ifs
      · exact (ih.cons _).trans (.swap _ _ _)
      · exact .refl _
    · exact .refl _

theorem mem_replace {name : Text} {value : Json} {members : Members} {m : Text × Json}
    (h : m ∈ replace name value members) : m ∈ members ∨ m = (name, value) := by
  induction members with
  | nil => cases h
  | cons first rest ih =>
    obtain ⟨k, v⟩ := first
    unfold replace at h
    split_ifs at h with hname
    · rcases List.mem_cons.1 h with hfirst | hrest
      · rw [hname] at hfirst
        exact Or.inr hfirst
      · exact Or.inl (List.mem_cons_of_mem _ hrest)
    · rcases List.mem_cons.1 h with hfirst | hrest
      · exact Or.inl (List.mem_cons.2 (Or.inl hfirst))
      · exact (ih hrest).imp (List.mem_cons_of_mem _) id

theorem isUnambiguous_set {members : Members} {name : Text} {value : Json}
    (hmembers : Json.isUnambiguousMembers members = true) (hvalue : value.isUnambiguous = true) :
    Json.isUnambiguousMembers (set members name value) = true := by
  rw [Json.isUnambiguousMembers_iff] at hmembers ⊢
  obtain ⟨hnames, hvalues⟩ := hmembers
  have hnew : ∀ {added : Members}, members.lookup name = none →
      added.Perm ((name, value) :: members) →
      (added.map (·.1)).Nodup ∧ ∀ m ∈ added, m.2.isUnambiguous = true := by
    intro added hfresh hperm
    rw [(hperm.map _).nodup_iff, List.map_cons, List.nodup_cons]
    refine ⟨⟨Json.lookup_eq_none_iff_not_mem.1 hfresh, hnames⟩, fun m hm => ?_⟩
    rcases List.mem_cons.1 (hperm.subset hm) with rfl | hold
    · exact hvalue
    · exact hvalues m hold
  unfold set
  split_ifs with htaken
  · rw [map_fst_replace]
    refine ⟨hnames, fun m hm => ?_⟩
    rcases mem_replace hm with hold | rfl
    · exact hvalues m hold
    · exact hvalue
  · rw [Bool.not_eq_true, Option.isSome_eq_false_iff, Option.isNone_iff_eq_none] at htaken
    split
    · exact hnew htaken (perm_insertIndexed _ _ _ _)
    · exact hnew htaken (List.perm_append_singleton _ _)

theorem isUnambiguous_ofPairs {pairs : List (Text × Json)}
    (h : ∀ pair ∈ pairs, pair.2.isUnambiguous = true) :
    Json.isUnambiguousMembers (ofPairs pairs) = true := by
  have hfold : ∀ {members : Members}, Json.isUnambiguousMembers members = true →
      Json.isUnambiguousMembers
        (pairs.foldl (fun members pair => set members pair.1 pair.2) members) = true := by
    induction pairs with
    | nil => exact id
    | cons pair rest ih =>
      intro members hmembers
      rw [List.forall_mem_cons] at h
      exact ih h.2 (isUnambiguous_set hmembers h.1)
  exact hfold rfl

end Members

namespace Json

theorem eq_of_map_eq_some {α β : Type} (make : α → β) {found : Option (α × List UInt16)}
    {made : β} {after : List UInt16}
    (h : (found.map fun (a, rest) => (make a, rest)) = some (made, after)) :
    ∃ a, found = some (a, after) ∧ made = make a := by
  obtain ⟨⟨a, rest⟩, hfound, hpair⟩ := Option.map_eq_some_iff.1 h
  obtain ⟨hmade, hrest⟩ := Prod.mk.inj hpair
  exact ⟨a, by rw [hfound, hrest], hmade.symm⟩

theorem isUnambiguous_of_readWord {us after : List UInt16} {value : Json}
    (h : readWord us = some (value, after)) : value.isUnambiguous = true := by
  unfold readWord at h
  cases hnull : skipWord? "null" us with
  | some rest =>
    simp only [hnull, Option.map_some, Option.orElse_some, Option.some.injEq, Prod.mk.injEq] at h
    rw [← h.1]
    rfl
  | none =>
    cases htrue : skipWord? "true" us with
    | some rest =>
      simp only [hnull, htrue, Option.map_none, Option.map_some, Option.orElse_none,
        Option.orElse_some, Option.some.injEq, Prod.mk.injEq] at h
      rw [← h.1]
      rfl
    | none =>
      simp only [hnull, htrue, Option.map_none, Option.orElse_none, Option.map_eq_some_iff] at h
      obtain ⟨rest, -, hpair⟩ := h
      rw [← (Prod.mk.inj hpair).1]
      rfl

/-- Whether what is read with some fuel is unambiguous. -/
structure ReadsUnambiguous (fuel : Nat) : Prop where
  value : ∀ {us after : List UInt16} {value : Json},
    readValue fuel us = some (value, after) → value.isUnambiguous = true
  items : ∀ {us after : List UInt16} {items : List Json},
    readItems fuel us = some (items, after) → ∀ v ∈ items, v.isUnambiguous = true
  members : ∀ {us after : List UInt16} {pairs : List (Text × Json)},
    readMembers fuel us = some (pairs, after) → ∀ m ∈ pairs, m.2.isUnambiguous = true

namespace ReadsUnambiguous

variable {fuel : Nat} {us after : List UInt16}

theorem readValue (h : ReadsUnambiguous fuel) {value : Json}
    (hread : Json.readValue (fuel + 1) us = some (value, after)) : value.isUnambiguous = true := by
  cases us with
  | nil => simp [Json.readValue] at hread
  | cons u rest =>
    unfold Json.readValue at hread
    split at hread
    · obtain ⟨s, -, rfl⟩ := eq_of_map_eq_some Json.string hread
      rfl
    · split at hread
      · rw [← (Prod.mk.inj (Option.some.inj hread)).1]
        rfl
      · obtain ⟨items, hitems, rfl⟩ := eq_of_map_eq_some Json.list hread
        exact isUnambiguousItems_iff.2 (h.items hitems)
    · split at hread
      · rw [← (Prod.mk.inj (Option.some.inj hread)).1]
        rfl
      · obtain ⟨pairs, hpairs, rfl⟩ :=
          eq_of_map_eq_some (fun pairs => Json.object (Members.ofPairs pairs)) hread
        exact Members.isUnambiguous_ofPairs (h.members hpairs)
    · cases hword : readWord (u :: rest) with
      | some found =>
        rw [hword, Option.orElse_some, Option.some.injEq] at hread
        rw [hread] at hword
        exact isUnambiguous_of_readWord hword
      | none =>
        rw [hword, Option.orElse_none] at hread
        obtain ⟨d, -, rfl⟩ := eq_of_map_eq_some Json.number hread
        rfl

theorem readItems (h : ReadsUnambiguous fuel) {items : List Json}
    (hread : Json.readItems (fuel + 1) us = some (items, after)) :
    ∀ v ∈ items, v.isUnambiguous = true := by
  unfold Json.readItems at hread
  obtain ⟨⟨value, rest⟩, hvalue, hread⟩ := Option.bind_eq_some_iff.1 hread
  dsimp only at hread
  split at hread
  · cases hread
  split at hread
  · rw [← (Prod.mk.inj (Option.some.inj hread)).1, List.forall_mem_singleton]
    exact h.value hvalue
  · obtain ⟨⟨more, _⟩, hmore, hread⟩ := Option.bind_eq_some_iff.1 hread
    rw [← (Prod.mk.inj (Option.some.inj hread)).1, List.forall_mem_cons]
    exact ⟨h.value hvalue, h.items hmore⟩
  · cases hread

theorem readMembers (h : ReadsUnambiguous fuel) {pairs : List (Text × Json)}
    (hread : Json.readMembers (fuel + 1) us = some (pairs, after)) :
    ∀ m ∈ pairs, m.2.isUnambiguous = true := by
  unfold Json.readMembers at hread
  obtain ⟨named, -, hread⟩ := Option.bind_eq_some_iff.1 hread
  obtain ⟨⟨name, rest⟩, -, hread⟩ := Option.bind_eq_some_iff.1 hread
  obtain ⟨behind, -, hread⟩ := Option.bind_eq_some_iff.1 hread
  obtain ⟨⟨value, rest⟩, hvalue, hread⟩ := Option.bind_eq_some_iff.1 hread
  dsimp only at hread
  split at hread
  · cases hread
  split at hread
  · rw [← (Prod.mk.inj (Option.some.inj hread)).1, List.forall_mem_singleton]
    exact h.value hvalue
  · obtain ⟨⟨more, _⟩, hmore, hread⟩ := Option.bind_eq_some_iff.1 hread
    rw [← (Prod.mk.inj (Option.some.inj hread)).1, List.forall_mem_cons]
    exact ⟨h.value hvalue, h.members hmore⟩
  · cases hread

end ReadsUnambiguous

theorem readsUnambiguous (fuel : Nat) : ReadsUnambiguous fuel := by
  induction fuel with
  | zero => exact ⟨by simp [readValue], by simp [readItems], by simp [readMembers]⟩
  | succ fuel ih => exact ⟨ih.readValue, ih.readItems, ih.readMembers⟩

theorem isUnambiguous_of_parse {text : Text} {value : Json} (h : parse text = some value) :
    value.isUnambiguous = true := by
  unfold parse at h
  split at h
  · rename_i found rest hread
    split_ifs at h
    rw [← Option.some.inj h]
    exact (readsUnambiguous _).value hread
  · cases h

theorem parse_of_byteOrderMark (rest : List UInt16) :
    parse ⟨Text.unit Text.byteOrderMark :: rest⟩ = none := by
  rfl

theorem dropByteOrderMarks_of_parse {text : Text} {value : Json} (h : parse text = some value) :
    text.dropByteOrderMarks = text := by
  obtain ⟨units⟩ := text
  cases units with
  | nil => rfl
  | cons u rest =>
    have hu : (u == Text.unit Text.byteOrderMark) = false := by
      rw [beq_eq_false_iff_ne]
      rintro rfl
      rw [parse_of_byteOrderMark] at h
      cases h
    simp [Text.dropByteOrderMarks, Text.drop, hu]

end Json

end SlackCourier
