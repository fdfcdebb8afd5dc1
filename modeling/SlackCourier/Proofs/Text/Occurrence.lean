import SlackCourier.Proofs.Text.Pieces

/-!
# Occurrences of a text, and what replacing them leaves

Where a text can occur in two texts joined, when replacing every occurrence of a text changes
nothing, and when it leaves none of it.  The last does not go without saying: what is put in stands
between the texts around it, and with them may make up the text anew.  It cannot if what is put in
has a mark that the text lacks, and if its part ahead of the mark agrees with an end of the text
only where the text begins so.
-/

namespace SlackCourier.Text

section

variable {α : Type} {part front back : List α}

theorem infix_append_cons_iff {mark : α} (hmark : mark ∉ part) :
    part <:+: front ++ mark :: back ↔ part <:+: front ∨ part <:+: back := by
  constructor
  · intro h
    rcases List.infix_append_iff_ne_nil.1 h with h | h | ⟨head, tail, -, htail, rfl, -, hprefix⟩
    · exact Or.inl h
    · rcases List.infix_cons_iff.1 h with hprefix | h
      · rcases List.prefix_cons_iff.1 hprefix with rfl | ⟨rest, rfl, -⟩
        · exact Or.inl List.nil_infix
        · exact absurd List.mem_cons_self hmark
      · exact Or.inr h
    · rcases List.prefix_cons_iff.1 hprefix with rfl | ⟨rest, rfl, -⟩
      · exact absurd rfl htail
      · exact absurd (List.mem_append_right head List.mem_cons_self) hmark
  · rintro (h | h)
    · exact List.infix_append_of_infix_left h
    · exact List.infix_append_of_infix_right (List.infix_cons h)

theorem infix_append_iff_of_head {first : α} {rest : List α} (hfirst : first ∉ front) :
    first :: rest <:+: front ++ back ↔ first :: rest <:+: back := by
  induction front with
  | nil => rfl
  | cons item front ih =>
    simp only [List.mem_cons, not_or] at hfirst
    have hne : ¬ first :: rest <+: item :: (front ++ back) := by
      intro h
      exact hfirst.1 (List.cons_prefix_cons.1 h).1
    rw [List.cons_append, List.infix_cons_iff, or_iff_right hne]
    exact ih hfirst.2

theorem suffix_of_notMem {mark : α} (h : part <:+ front ++ mark :: back) (hmark : mark ∉ part) :
    part <:+ back := by
  have hback : back <:+ front ++ mark :: back :=
    (List.suffix_cons mark back).trans (List.suffix_append front _)
  by_cases hshort : part.length ≤ back.length
  · exact List.suffix_of_suffix_length_le h hback hshort
  · have hlength : (mark :: back).length ≤ part.length := Nat.lt_of_not_le hshort
    have hlong : mark :: back <:+ part :=
      List.suffix_of_suffix_length_le (List.suffix_append front _) h hlength
    exact absurd (hlong.subset List.mem_cons_self) hmark

/-- Whether every occurrence of a list in two lists joined begins in the second. -/
def BeginsIn (part front back : List α) : Prop :=
  ∀ before after, front ++ back = before ++ part ++ after → front.length ≤ before.length

theorem beginsIn_nil (part back : List α) : BeginsIn part [] back :=
  fun before _ _ => Nat.zero_le before.length

theorem BeginsIn.notInfix (h : BeginsIn part front back) (hpart : part ≠ []) :
    ¬ part <:+: front := by
  rintro ⟨before, after, rfl⟩
  have hlength := h before (after ++ back) (by simp)
  have hpositive := List.length_pos_iff.2 hpart
  simp only [List.length_append] at hlength
  omega

theorem BeginsIn.concat {item : α} (h : BeginsIn part front (item :: back))
    (hitem : ¬ part <+: item :: back) : BeginsIn part (front ++ [item]) back := by
  intro before after heq
  rw [List.append_assoc, List.singleton_append] at heq
  have hlength := h before after heq
  have hne : front.length ≠ before.length := by
    intro hsame
    rw [List.append_assoc] at heq
    have hback := (List.append_inj heq hsame).2
    exact hitem ⟨after, hback.symm⟩
  rw [List.length_append, List.length_singleton]
  omega

/-- Whether what is put in for a list, namely `lead` with a mark and `rest` behind it, keeps the
list from being made up anew. -/
structure Seals (part lead : List α) (mark : α) (rest : List α) : Prop where
  mark_notMem : mark ∉ part
  lead_free : ¬ part <:+: lead
  /-- What agrees with the lead at an end of the list agrees with it at its beginning. -/
  turns : ∀ piece, piece <+: lead → piece <:+ part → piece <+: part
  rest_free : ∀ back, part <:+: rest ++ back → part <:+: back

variable {lead rest : List α} {mark : α}

theorem Seals.ne_nil (h : Seals part lead mark rest) : part ≠ [] := by
  rintro rfl
  exact h.lead_free List.nil_infix

theorem Seals.notInfix_lead (h : Seals part lead mark rest)
    (hbegins : BeginsIn part front (part ++ back)) : ¬ part <:+: front ++ lead := by
  intro hwithin
  rcases List.infix_append_iff_ne_nil.1 hwithin with
    hfront | hlead | ⟨head, tail, hhead, -, hpart, hsuffix, hprefix⟩
  · exact hbegins.notInfix h.ne_nil hfront
  · exact h.lead_free hlead
  · obtain ⟨before, hfront⟩ := hsuffix
    have htail : tail <:+ part := ⟨head, hpart.symm⟩
    obtain ⟨other, hother⟩ := h.turns tail hprefix htail
    have heq : front ++ (part ++ back) = before ++ part ++ (other ++ back) := by
      calc front ++ (part ++ back)
          = (before ++ head) ++ ((tail ++ other) ++ back) := by rw [hfront, hother]
        _ = before ++ (head ++ tail) ++ (other ++ back) := by simp only [List.append_assoc]
        _ = before ++ part ++ (other ++ back) := by rw [hpart]
    have hlength := hbegins before (other ++ back) heq
    have hpositive := List.length_pos_iff.2 hhead
    rw [← hfront, List.length_append] at hlength
    omega

theorem Seals.notInfix_replaceFrom [DecidableEq α] (h : Seals part lead mark rest) (list : List α)
    (skip : Nat) (front : List α) (hbegins : BeginsIn part front (list.drop skip)) :
    ¬ part <:+: front ++ replaceFrom part (lead ++ mark :: rest) skip list := by
  induction list generalizing skip front with
  | nil =>
    simp only [replaceFrom, List.append_nil]
    exact hbegins.notInfix h.ne_nil
  | cons item list ih =>
    cases skip with
    | succ skip => exact ih skip front hbegins
    | zero =>
      rw [List.drop_zero] at hbegins
      unfold replaceFrom
      split_ifs with hprefix
      · rw [List.isPrefixOf_iff_prefix] at hprefix
        obtain ⟨back, hback⟩ := hprefix
        rw [← hback] at hbegins
        have hahead : ¬ part <:+: front ++ lead := h.notInfix_lead hbegins
        have hbehind := ih (part.length - 1) [] (beginsIn_nil part _)
        -- The mark keeps what stands ahead of it apart from what stands behind.
        have hshape : ∀ tail, front ++ (lead ++ mark :: rest ++ tail) =
            (front ++ lead) ++ mark :: (rest ++ tail) := by simp
        rw [hshape, infix_append_cons_iff h.mark_notMem, not_or]
        exact ⟨hahead, fun hrest => hbehind (h.rest_free _ hrest)⟩
      · rw [List.isPrefixOf_iff_prefix] at hprefix
        have hnext := ih 0 (front ++ [item]) (hbegins.concat hprefix)
        rw [List.append_assoc, List.singleton_append] at hnext
        exact hnext

theorem Seals.notInfix_replaceList [DecidableEq α] (h : Seals part lead mark rest)
    (list : List α) : ¬ part <:+: replaceList part (lead ++ mark :: rest) list := by
  rw [replaceList, if_neg h.ne_nil]
  exact h.notInfix_replaceFrom list 0 [] (beginsIn_nil part _)

end

section

variable {α : Type} [DecidableEq α] {old new : List α}

theorem length_replaceFrom_le (hshort : new.length < old.length) (skip : Nat) (list : List α) :
    (replaceFrom old new skip list).length ≤ list.length - skip := by
  induction list generalizing skip with
  | nil => simp [replaceFrom]
  | cons item list ih =>
    cases skip with
    | succ skip =>
      have hrest := ih skip
      simp only [replaceFrom, List.length_cons]
      omega
    | zero =>
      unfold replaceFrom
      split_ifs with hstart
      · have hlength := (List.isPrefixOf_iff_prefix.1 hstart).length_le
        have hrest := ih (old.length - 1)
        rw [List.length_cons] at hlength
        rw [List.length_append, List.length_cons]
        omega
      · have hrest := ih 0
        simp only [List.length_cons]
        omega

/-- Replacing by something shorter leaves a list as it is exactly when there is nothing in it to
replace. -/
theorem replaceFrom_eq_self_iff (hshort : new.length < old.length) (list : List α) :
    replaceFrom old new 0 list = list ↔ ¬ old <:+: list := by
  induction list with
  | nil =>
    have hne : old ≠ [] := List.ne_nil_of_length_pos (by omega)
    simp [replaceFrom, hne]
  | cons item list ih =>
    unfold replaceFrom
    rw [List.infix_cons_iff, not_or]
    split_ifs with hstart
    · rw [List.isPrefixOf_iff_prefix] at hstart
      have hlength := hstart.length_le
      have hrest := length_replaceFrom_le hshort (old.length - 1) list
      have hless : (new ++ replaceFrom old new (old.length - 1) list).length <
          (item :: list).length := by
        rw [List.length_cons] at hlength ⊢
        rw [List.length_append]
        omega
      refine ⟨fun hsame => ?_, fun hfree => absurd hstart hfree.1⟩
      rw [hsame] at hless
      exact absurd hless (Nat.lt_irrefl _)
    · rw [List.isPrefixOf_iff_prefix] at hstart
      rw [List.cons_inj_right, ih]
      exact ⟨fun hfree => ⟨hstart, hfree⟩, And.right⟩

end

/-- Whether a text occurs in another. -/
def OccursIn (part text : Text) : Prop := part.units <:+: text.units

/-- Whether a text lies across the line between two others. -/
def Straddles (part front back : Text) : Prop :=
  ∃ head tail, head ≠ [] ∧ tail ≠ [] ∧ part.units = head ++ tail ∧ head <:+ front.units ∧
    tail <+: back.units

instance (part text : Text) : Decidable (part.OccursIn text) :=
  inferInstanceAs (Decidable (part.units <:+: text.units))

theorem occursIn_append_iff {part front back : Text} : part.OccursIn (front ++ back) ↔
    part.OccursIn front ∨ part.OccursIn back ∨ part.Straddles front back :=
  List.infix_append_iff_ne_nil

theorem not_straddles_of_ends {part front : Text} {ahead : List UInt16} {last : UInt16}
    (hfront : front.units = ahead ++ [last]) (hlast : last ∉ part.units) (back : Text) :
    ¬ part.Straddles front back := by
  rintro ⟨head, tail, hhead, -, hpart, hsuffix, -⟩
  have hfree : last ∉ head := by
    intro hmem
    rw [hpart] at hlast
    exact hlast (List.mem_append_left tail hmem)
  rw [hfront] at hsuffix
  exact hhead (List.suffix_nil.1 (suffix_of_notMem hsuffix hfree))

theorem replaceAll_eq_self_iff {old new : Text} (hshort : new.length < old.length) (text : Text) :
    replaceAll old new text = text ↔ ¬ old.OccursIn text := by
  have hne : old.units ≠ [] := List.ne_nil_of_length_pos (Nat.zero_lt_of_lt hshort)
  unfold replaceAll replaceList OccursIn
  rw [if_neg hne, ← replaceFrom_eq_self_iff hshort]
  exact ⟨congrArg Text.units, congrArg Text.mk⟩

theorem OccursIn.count_le {part text : Text} (h : part.OccursIn text) (unit : UInt16) :
    part.units.count unit ≤ text.units.count unit :=
  h.sublist.count_le unit

end SlackCourier.Text
