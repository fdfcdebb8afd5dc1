import SlackCourier.Proofs.Message.ReadBack
import Mathlib.Algebra.Ring.Parity
import Mathlib.Data.List.Induction

/-!
# Quotes that a reader sees bare

A reader takes a backslash for the escape of the unit behind it, another backslash included, and so
sees a quote bare when an even number of backslashes stands directly before it.  Escaping puts one
backslash more before every quote and leaves those that are there alone: a quote that the caller had
escaped already is bare in what goes out.
-/

namespace SlackCourier.Message

open Json

/-- The number of backslashes at the end of a list of units. -/
def backslashesAtEnd (us : List UInt16) : Nat := (us.reverse.takeWhile (· == backslash)).length

/-- Whether a reader of a list of units takes the next unit for escaped. -/
def leavesEscaped (us : List UInt16) : Bool :=
  us.foldl (fun escaped u => !escaped && u == backslash) false

/-- Whether a reader of a text sees one of its quotes bare. -/
def ShowsBareQuote (text : Text) : Prop :=
  ∃ before, QuoteBehind text before ∧ leavesEscaped before = false

theorem backslashesAtEnd_concat (us : List UInt16) (u : UInt16) :
    backslashesAtEnd (us ++ [u]) = if u = backslash then backslashesAtEnd us + 1 else 0 := by
  unfold backslashesAtEnd
  rw [List.reverse_concat, List.takeWhile_cons]
  by_cases hu : u = backslash <;> simp [hu]

theorem backslashesAtEnd_of_notMem {us : List UInt16} (h : backslash ∉ us) :
    backslashesAtEnd us = 0 := by
  induction us using List.reverseRecOn with
  | nil => rfl
  | append_singleton us u _ =>
    have hu : u ≠ backslash := by
      rintro rfl
      exact h (List.mem_append_right us (List.mem_singleton_self _))
    rw [backslashesAtEnd_concat, if_neg hu]

theorem leavesEscaped_concat (us : List UInt16) (u : UInt16) :
    leavesEscaped (us ++ [u]) = (!leavesEscaped us && u == backslash) := by
  unfold leavesEscaped
  rw [List.foldl_append, List.foldl_cons, List.foldl_nil]

/-- The next unit is escaped when the number of backslashes before it is odd: two of them are a
backslash that is escaped by the other. -/
theorem leavesEscaped_iff (us : List UInt16) :
    leavesEscaped us = true ↔ Odd (backslashesAtEnd us) := by
  induction us using List.reverseRecOn with
  | nil => decide
  | append_singleton us u ih =>
    rw [leavesEscaped_concat, backslashesAtEnd_concat]
    by_cases hu : u = backslash
    · rw [if_pos hu, Nat.odd_add_one, ← ih]
      simp [hu]
    · rw [if_neg hu]
      simp [hu]

theorem showsBareQuote_iff {text : Text} :
    ShowsBareQuote text ↔ ∃ before, QuoteBehind text before ∧ Even (backslashesAtEnd before) := by
  unfold ShowsBareQuote
  refine exists_congr fun before => and_congr_right fun _ => ?_
  rw [← Bool.not_eq_true, leavesEscaped_iff, Nat.not_odd_iff_even]

theorem backslashesAtEnd_escapeList (us : List UInt16) :
    backslashesAtEnd (escapeList us) = backslashesAtEnd us := by
  induction us using List.reverseRecOn with
  | nil => rfl
  | append_singleton us u ih =>
    rw [escapeList_append, backslashesAtEnd_concat]
    by_cases hquote : isQuote u = true
    · have hu : u ≠ backslash := by
        rintro rfl
        rw [isQuote_backslash] at hquote
        cases hquote
      have hlast : escapeList us ++ escapeList [u] = escapeList us ++ [backslash] ++ [u] := by
        rw [escapeList_cons_of_quote hquote, List.append_assoc]
        rfl
      rw [hlast, backslashesAtEnd_concat, if_neg hu, if_neg hu]
    · have hlast : escapeList [u] = [u] := by
        rw [escapeList, if_neg hquote, escapeList]
      rw [hlast, backslashesAtEnd_concat, ih]

namespace Draft

/-- A quote stands in a text that goes out wherever the text given has one, with one backslash more
before it.  So the number of backslashes before each quote is odd, and a reader sees no quote bare,
exactly when the text given has an even number of them before each. -/
theorem quotes_gain_a_backslash {draft : Draft} {path : List Branch} {sent : Text}
    (hplace : IsTextPlace path)
    (hsent : (Json.object draft.payload).at? path = some (.string sent)) :
    ∃ text, draft.Carries path text ∧
      (∀ before, QuoteBehind sent before ↔
        ∃ given, QuoteBehind text given ∧ before = escapeList given ++ [backslash]) ∧
      (∀ given, backslashesAtEnd (escapeList given ++ [backslash]) = backslashesAtEnd given + 1) ∧
      ((∀ before, QuoteBehind sent before → Odd (backslashesAtEnd before)) ↔
        ∀ given, QuoteBehind text given → Even (backslashesAtEnd given)) ∧
      (¬ ShowsBareQuote sent ↔
        ∀ given, QuoteBehind text given → Even (backslashesAtEnd given)) := by
  obtain ⟨text, hcarries, rfl⟩ := exists_carries hplace hsent
  have hquotes : ∀ before, QuoteBehind (escapeQuotes text) before ↔ _ :=
    fun _ => quoteBehind_escapeQuotes
  have hgrow : ∀ given, backslashesAtEnd (escapeList given ++ [backslash]) =
      backslashesAtEnd given + 1 := by
    intro given
    rw [backslashesAtEnd_concat, if_pos rfl, backslashesAtEnd_escapeList]
  have hodd : (∀ before, QuoteBehind (escapeQuotes text) before →
      Odd (backslashesAtEnd before)) ↔
        ∀ given, QuoteBehind text given → Even (backslashesAtEnd given) := by
    constructor
    · intro h given hgiven
      have hrun := h _ ((hquotes _).2 ⟨given, hgiven, rfl⟩)
      rwa [hgrow, Nat.odd_add_one, Nat.not_odd_iff_even] at hrun
    · intro h before hbefore
      obtain ⟨given, hgiven, rfl⟩ := (hquotes before).1 hbefore
      rw [hgrow]
      exact (h given hgiven).add_one
  refine ⟨text, hcarries, hquotes, hgrow, hodd, ?_⟩
  rw [← hodd, showsBareQuote_iff, not_exists]
  refine forall_congr' fun before => ?_
  rw [not_and, Nat.not_even_iff_odd]

theorem quotes_gain_a_backslash_of_note :
    IsTextPlace [.member "blocks", .item 0, .member "fields", .item 1, .member "alt_text"] ∧
    (Json.object (reportDraft "it's").payload).at?
        [.member "blocks", .item 0, .member "fields", .item 1, .member "alt_text"] =
      some (.string "it\\'s") ∧ ¬ ShowsBareQuote "it\\'s" := by
  have hplace : IsTextPlace
      [.member "blocks", .item 0, .member "fields", .item 1, .member "alt_text"] := .block 0 rfl
  have hsent : (Json.object (reportDraft "it's").payload).at?
        [.member "blocks", .item 0, .member "fields", .item 1, .member "alt_text"] =
      some (.string "it\\'s") := by decide +kernel
  obtain ⟨text, hcarries, -, -, -, hbare⟩ := quotes_gain_a_backslash hplace hsent
  have hescaped : escapeQuotes text = "it\\'s" := by
    have hfound := hcarries.at?_payload
    rw [hsent, Option.some.injEq, Json.string.injEq] at hfound
    exact hfound.symm
  have htext : text = "it's" := by
    rw [← unescapeQuotes_escapeQuotes text, hescaped]
    decide +kernel
  refine ⟨hplace, hsent, hbare.2 fun given hgiven => ?_⟩
  obtain ⟨quote, after, hunits, -⟩ := hgiven
  have hmem : backslash ∉ text.units := by rw [htext]; decide
  have hnone : backslash ∉ given := fun h => hmem (hunits ▸ List.mem_append_left _ h)
  rw [backslashesAtEnd_of_notMem hnone]
  decide

/-- A quote that the caller has escaped goes out behind two backslashes. -/
theorem escaped_quote_sent_bare :
    ¬ ∀ (draft : Draft) (path : List Branch) (sent : Text), IsTextPlace path →
      (Json.object draft.payload).at? path = some (.string sent) →
      ∀ before, QuoteBehind sent before → Odd (backslashesAtEnd before) := by
  intro hclaim
  have hsent : (Json.object (textDraft "\\'").payload).at? [.member "text"] =
      some (.string "\\\\'") := by decide +kernel
  have hodd := hclaim _ _ _ .text hsent [backslash, backslash] ⟨Text.unit '\'', [], rfl, rfl⟩
  exact absurd hodd (by decide)

end Draft

end SlackCourier.Message
