import SlackCourier.Text.Occurrence
import Mathlib.Tactic.SplitIfs

/-!
# Pieces of texts

Texts cut at a separator and joined again, what a text begins with, and that the unit of a slash,
as of every character below the halves of pairs, belongs to no other character.
-/

namespace SlackCourier

namespace Text

variable {α : Type} [DecidableEq α]

theorem splitList_of_notMem {sep : α} {piece : List α} (h : sep ∉ piece) :
    splitList sep piece = [piece] := by
  induction piece with
  | nil => rfl
  | cons c rest ih =>
    simp only [List.mem_cons, not_or] at h
    rw [splitList, if_neg (Ne.symm h.1), ih h.2]

theorem splitList_append_cons {sep : α} {piece : List α} (h : sep ∉ piece) (list : List α) :
    splitList sep (piece ++ sep :: list) = piece :: splitList sep list := by
  induction piece with
  | nil => simp [splitList]
  | cons c rest ih =>
    simp only [List.mem_cons, not_or] at h
    rw [List.cons_append, splitList, if_neg (Ne.symm h.1), ih h.2]

/-- Joining pieces without separators and cutting at the separators gives the pieces back. -/
theorem splitList_joinList {sep : α} {pieces : List (List α)} (hne : pieces ≠ [])
    (h : ∀ piece ∈ pieces, sep ∉ piece) : splitList sep (joinList [sep] pieces) = pieces := by
  induction pieces with
  | nil => exact absurd rfl hne
  | cons piece pieces ih =>
    have hpiece := h piece (by simp)
    cases pieces with
    | nil => exact splitList_of_notMem hpiece
    | cons next rest =>
      have hrest := ih (by simp) fun p hp => h p (by simp [hp])
      simp only [joinList, List.append_assoc, List.singleton_append]
      rw [splitList_append_cons hpiece, hrest]

theorem notMem_of_mem_splitList {sep : α} {list : List α} :
    ∀ piece ∈ splitList sep list, sep ∉ piece := by
  induction list with
  | nil => simp [splitList]
  | cons c rest ih =>
    unfold splitList
    split_ifs with h
    · intro piece hp
      rcases List.mem_cons.mp hp with rfl | hp
      · simp
      · exact ih piece hp
    · cases hs : splitList sep rest with
      | nil => exact absurd hs (splitList_ne_nil sep rest)
      | cons first others =>
        rw [hs] at ih
        intro piece hp
        rcases List.mem_cons.mp hp with rfl | hp
        · simp only [List.mem_cons, not_or]
          exact ⟨fun e => h e.symm, ih first (by simp)⟩
        · exact ih piece (by simp [hp])

theorem toNat_ofNat_of_isValidChar {n : Nat} (h : n.isValidChar) : (Char.ofNat n).toNat = n := by
  unfold Char.ofNat
  rw [dif_pos h]
  rfl

theorem eq_of_unit_mem_unitsOfChar {c d : Char} (hd : d.toNat < 0xD800)
    (h : unit d ∈ unitsOfChar c) : c = d := by
  have hunit : (unit d).toNat = d.toNat := (unit_not_half (by omega)).1
  unfold unitsOfChar at h
  split_ifs at h with hc
  · have hu : unit c = unit d := by simpa [eq_comm] using h
    have hn : c.toNat = d.toNat := by rw [← (unit_not_half hc).1, hu, hunit]
    exact Char.toNat_inj.1 hn
  · have hv := c.valid
    have hcv : c.val.toNat = c.toNat := rfl
    simp only [UInt32.isValidChar, Nat.isValidChar] at hv
    have hhigh := toNat_highHalf (show c.toNat - 0x10000 < 0x100000 by omega)
    have hlow := toNat_lowHalf (c.toNat - 0x10000)
    simp only [List.mem_cons, List.not_mem_nil, or_false] at h
    rcases h with h | h
    · rw [← h] at hhigh
      omega
    · rw [← h] at hlow
      omega

theorem mem_of_unit_mem_unitsOf {d : Char} {cs : List Char} (hd : d.toNat < 0xD800)
    (h : unit d ∈ unitsOf cs) : d ∈ cs := by
  obtain ⟨c, hc, hunit⟩ := List.mem_flatMap.mp h
  rwa [← eq_of_unit_mem_unitsOfChar hd hunit]

theorem slash_mem_of_mem_charsOf {us : List UInt16} (h : '/' ∈ charsOf us) : unit '/' ∈ us := by
  have hlonely : ∀ u : UInt16, '/' = lonely u → u = unit '/' := by
    intro u hu
    unfold lonely at hu
    split_ifs at hu with hhalf
    · exact absurd hu (by decide)
    · simp only [Bool.or_eq_true, not_or, isHighHalf, isLowHalf, Bool.and_eq_true,
        decide_eq_true_eq] at hhalf
      have hbound := u.toNat_lt
      have hvalid : u.toNat.isValidChar := by
        simp only [Nat.isValidChar]
        omega
      have hn := congrArg Char.toNat hu
      rw [toNat_ofNat_of_isValidChar hvalid] at hn
      apply UInt16.toNat_inj.1
      rw [← hn]
      rfl
  have hpaired : ∀ high low : UInt16, isHighHalf high && isLowHalf low →
      '/' ≠ paired high low := by
    intro high low hh e
    simp only [isHighHalf, isLowHalf, Bool.and_eq_true, decide_eq_true_eq] at hh
    have hvalid : (0x10000 + (high.toNat - 0xD800) * 0x400 + (low.toNat - 0xDC00)).isValidChar := by
      simp only [Nat.isValidChar]
      omega
    have hn := toNat_ofNat_of_isValidChar hvalid
    have hslash : (paired high low).toNat = 0x2F := by rw [← e]; rfl
    unfold paired at hslash
    omega
  induction us using charsOf.induct with
  | case1 => simp [charsOf] at h
  | case2 u =>
    simp only [charsOf, List.mem_singleton] at h
    simp [hlonely u h]
  | case3 u v rest hpair ih =>
    rw [charsOf, if_pos hpair] at h
    rcases List.mem_cons.mp h with h | h
    · exact absurd h (hpaired u v hpair)
    · simp [ih h]
  | case4 u v rest hpair ih =>
    rw [charsOf, if_neg hpair] at h
    rcases List.mem_cons.mp h with h | h
    · simp [hlonely u h]
    · exact List.mem_cons_of_mem _ (ih h)

theorem charsOf_ne_nil {us : List UInt16} (h : us ≠ []) : charsOf us ≠ [] := by
  induction us using charsOf.induct with
  | case1 => exact absurd rfl h
  | case2 u => simp [charsOf]
  | case3 u v rest hpair ih => simp [charsOf, hpair]
  | case4 u v rest hpair ih => simp [charsOf, hpair]

theorem append_assoc (a b c : Text) : a ++ b ++ c = a ++ (b ++ c) :=
  congrArg mk (List.append_assoc a.units b.units c.units)

theorem append_left_cancel_iff {front a b : Text} : front ++ a = front ++ b ↔ a = b := by
  constructor
  · intro h
    exact congrArg mk (List.append_cancel_left (congrArg units h))
  · rintro rfl
    rfl

theorem startsWith_iff {text start : Text} :
    text.startsWith start = true ↔ ∃ rest, text = start ++ rest := by
  unfold startsWith
  rw [List.isPrefixOf_iff_prefix]
  constructor
  · rintro ⟨rest, hrest⟩
    exact ⟨⟨rest⟩, congrArg mk hrest.symm⟩
  · rintro ⟨rest, rfl⟩
    exact ⟨rest.units, rfl⟩

theorem startsWith_append_of {text start : Text} (h : text.startsWith start = true)
    (rest : Text) : (text ++ rest).startsWith start = true := by
  obtain ⟨more, rfl⟩ := startsWith_iff.1 h
  exact startsWith_iff.2 ⟨more ++ rest, append_assoc start more rest⟩

theorem given_eq_some_iff {part : Option Text} {text : Text} :
    Text.given part = some text ↔ part = some text ∧ text ≠ "" := by
  cases part with
  | none => simp [given]
  | some found =>
    simp only [given, Option.some.injEq]
    split_ifs with hempty
    · simp only [false_iff]
      rintro ⟨rfl, hne⟩
      exact hne hempty
    · simp only [Option.some.injEq]
      exact ⟨fun he => ⟨he, he ▸ hempty⟩, And.left⟩

theorem eq_of_given {part : Option Text} {text : Text} (h : Text.given part = some text) :
    part = some text := (given_eq_some_iff.1 h).1

@[simp] theorem drop_append (start rest : Text) : (start ++ rest).drop start.length = rest :=
  congrArg mk (List.drop_left ..)

end Text

end SlackCourier
