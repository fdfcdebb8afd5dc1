import SlackCourier.Proofs.Channel.FirstMatch
import Mathlib.Data.Finset.Card
import Mathlib.Data.Finset.Image
import Mathlib.Data.List.Nodup

/-!
# A search ends or goes round

A search keeps no record of the cursors that it has asked for: each page alone says which one is
next.  Pages that never name a cursor again therefore end it, after at most one request more than
there are cursors.  But where the same cursor always gets the same page, and a page names one that
has been asked for, the search goes round for as long as it is answered.
-/

namespace SlackCourier.Channel

open Session

section

variable (name : Text) (pages : List Members)

/-- The cursor that a search asks for next, if it turns a page. -/
def next? (name : Text) (page : Members) : Option Text :=
  if firstId? name page = none then cursor? page else none

variable {name} in
theorem cursor?_of_next? {page : Members} {next : Text} (h : next? name page = some next) :
    cursor? page = some next := by
  unfold next? at h
  split_ifs at h
  exact h

theorem turned_cons_eq (page : Members) : turned name (page :: pages) =
    if (next? name page).isSome then page :: turned name pages else [] := by
  cases hfind : firstId? name page with
  | some id => simp [turned_cons_of_found hfind, next?, hfind]
  | none =>
    cases hnext : cursor? page with
    | none => simp [turned_cons_of_last hnext, next?, hnext]
    | some next => simp [turned_cons hfind hnext, next?, hfind, hnext]

/-- The cursors that a search asks for, all of which the pages name. -/
def followed : List Text := (turned name pages).filterMap cursor?

theorem followed_sublist : (followed name pages).Sublist (pages.filterMap cursor?) :=
  (List.takeWhile_sublist _).filterMap cursor?

theorem asked_eq : asked name pages = none :: (followed name pages).map some := by
  unfold asked followed
  congr 1
  induction pages with
  | nil => rfl
  | cons page rest ih =>
    rw [turned_cons_eq]
    cases hnext : next? name page with
    | none => rfl
    | some next => simp [cursor?_of_next? hnext, ih]

theorem nodup_asked_iff : (asked name pages).Nodup ↔ (followed name pages).Nodup := by
  rw [asked_eq, List.nodup_cons, List.nodup_map_iff (Option.some_injective Text)]
  simp

variable {name pages}

theorem length_asked_le {cursors : Finset Text}
    (hnamed : ∀ page ∈ pages, ∀ next, cursor? page = some next → next ∈ cursors)
    (h : (asked name pages).Nodup) : (asked name pages).length ≤ cursors.card + 1 := by
  have hsubset : (followed name pages).toFinset ⊆ cursors := by
    intro next hnext
    obtain ⟨page, hpage, hcursor⟩ :=
      List.mem_filterMap.1 ((followed_sublist name pages).subset (List.mem_toFinset.1 hnext))
    exact hnamed page hpage next hcursor
  have hcard := Finset.card_le_card hsubset
  rw [List.toFinset_card_of_nodup ((nodup_asked_iff name pages).1 h)] at hcard
  rw [asked_eq, List.length_cons, List.length_map]
  omega

end

/-- A listing that answers each cursor with a page, always with the same one, and that has only so
many cursors. -/
structure Listing where
  answer : Option Text → Turn
  page : Option Text → Members
  isPage : ∀ cursor, pageIn? (answer cursor) = some (page cursor)
  cursors : Finset Text
  named : ∀ cursor next, cursor? (page cursor) = some next → next ∈ cursors

namespace Listing

/-- So many answers of a listing to whoever reads its pages from the one at a cursor on. -/
def script (listing : Listing) : Nat → Option Text → List Turn
  | 0, _ => []
  | n + 1, cursor => listing.answer cursor ::
    match cursor? (listing.page cursor) with
    | some next => listing.script n (some next)
    | none => []

/-- The cursor that a search asks for once it has turned so many pages. -/
def trail (listing : Listing) (name : Text) : Nat → Option Text → Option (Option Text)
  | 0, cursor => some cursor
  | k + 1, cursor =>
    (next? name (listing.page cursor)).bind fun next => listing.trail name k (some next)

variable (listing : Listing) (name : Text)

theorem leadingPages_script_succ (n : Nat) (cursor : Option Text) :
    leadingPages (listing.script (n + 1) cursor) = listing.page cursor ::
      match cursor? (listing.page cursor) with
      | some next => leadingPages (listing.script n (some next))
      | none => [] := by
  rw [script, leadingPages, listing.isPage]
  cases hnext : cursor? (listing.page cursor) <;> simp [hnext]

variable {listing} in
theorem named_of_mem_leadingPages {n : Nat} {cursor : Option Text} {page : Members}
    (h : page ∈ leadingPages (listing.script n cursor)) {next : Text}
    (hnext : cursor? page = some next) : next ∈ listing.cursors := by
  induction n generalizing cursor with
  | zero => cases h
  | succ n ih =>
    rw [leadingPages_script_succ, List.mem_cons] at h
    rcases h with rfl | h
    · exact listing.named cursor next hnext
    · cases hafter : cursor? (listing.page cursor) with
      | none => simp [hafter] at h
      | some after =>
        rw [hafter] at h
        exact ih h

/-- The cursors that a search from the page at one of them on asks for, of so many answers. -/
def askedFrom (n : Nat) (cursor : Option Text) : List (Option Text) :=
  cursor :: (turned name (leadingPages (listing.script n cursor))).map cursor?

theorem askedFrom_succ (n : Nat) (cursor : Option Text) :
    listing.askedFrom name (n + 1) cursor = cursor ::
      match next? name (listing.page cursor) with
      | some next => listing.askedFrom name n (some next)
      | none => [] := by
  unfold askedFrom
  rw [leadingPages_script_succ, turned_cons_eq]
  cases hnext : next? name (listing.page cursor) with
  | none => rfl
  | some next =>
    rw [cursor?_of_next? hnext, Option.isSome_some, if_pos rfl, List.map_cons,
      cursor?_of_next? hnext]

theorem getElem?_askedFrom (n k : Nat) (cursor : Option Text) :
    (listing.askedFrom name n cursor)[k]? =
      if k ≤ n then listing.trail name k cursor else none := by
  induction n generalizing k cursor with
  | zero => cases k <;> rfl
  | succ n ih =>
    rw [askedFrom_succ]
    cases k with
    | zero => rfl
    | succ k =>
      rw [List.getElem?_cons_succ, trail]
      cases next? name (listing.page cursor) with
      | none => simp
      | some next => simpa using ih k (some next)

theorem trail_add (i k : Nat) (cursor : Option Text) : listing.trail name (i + k) cursor =
    (listing.trail name i cursor).bind (listing.trail name k) := by
  induction i generalizing cursor with
  | zero => rw [Nat.zero_add, trail, Option.bind_some]
  | succ i ih =>
    rw [Nat.add_right_comm, trail, trail]
    cases next? name (listing.page cursor) with
    | none => rfl
    | some next => exact ih (some next)

variable {listing name} {cursor : Option Text}

/-- A trail that comes to a cursor again never ends: any number of pages on, it is where it was one
round before. -/
theorem trail_ne_none {i j : Nat} (hlt : i < j) (hj : listing.trail name j cursor ≠ none)
    (hagain : listing.trail name i cursor = listing.trail name j cursor) (k : Nat) :
    listing.trail name k cursor ≠ none := by
  induction k using Nat.strong_induction_on with
  | _ k ih =>
    by_cases hk : k ≤ j
    · intro hnone
      rw [← Nat.add_sub_of_le hk, trail_add, hnone] at hj
      exact hj rfl
    · have hback : listing.trail name k cursor = listing.trail name (i + (k - j)) cursor := by
        rw [trail_add, hagain, ← trail_add]
        congr 1
        omega
      rw [hback]
      exact ih (i + (k - j)) (by omega)

theorem length_askedFrom_le (n : Nat) : (listing.askedFrom name n cursor).length ≤ n + 1 := by
  rw [← List.getElem?_eq_none_iff, getElem?_askedFrom, if_neg (Nat.not_succ_le_self n)]

theorem length_askedFrom {n : Nat} (h : listing.trail name n cursor ≠ none) :
    (listing.askedFrom name n cursor).length = n + 1 := by
  have hlast : (listing.askedFrom name n cursor)[n]? = listing.trail name n cursor := by
    rw [getElem?_askedFrom, if_pos (Nat.le_refl n)]
  have hle : (listing.askedFrom name n cursor).length ≤ n + 1 := length_askedFrom_le n
  rw [← hlast, Ne, List.getElem?_eq_none_iff] at h
  omega

theorem length_askedFrom_of_not_nodup {n : Nat}
    (h : ¬ (listing.askedFrom name n cursor).Nodup) (m : Nat) :
    (listing.askedFrom name m cursor).length = m + 1 := by
  rw [List.nodup_iff_getElem?_ne_getElem?] at h
  push Not at h
  obtain ⟨i, j, hlt, hj, hagain⟩ := h
  have hle : j ≤ n := by
    have hlength : (listing.askedFrom name n cursor).length ≤ n + 1 := length_askedFrom_le n
    omega
  have hsome : (listing.askedFrom name n cursor)[j]? ≠ none := by
    rw [Ne, List.getElem?_eq_none_iff]
    omega
  rw [getElem?_askedFrom, if_pos hle] at hsome
  rw [getElem?_askedFrom, getElem?_askedFrom, if_pos hle, if_pos (by omega)] at hagain
  exact length_askedFrom (trail_ne_none hlt hsome hagain m)

theorem length_askedFrom_of_turned {n : Nat}
    (h : turned name (leadingPages (listing.script n cursor)) =
      leadingPages (listing.script n cursor)) :
    (listing.askedFrom name n cursor).length = n + 1 := by
  induction n generalizing cursor with
  | zero => rfl
  | succ n ih =>
    rw [leadingPages_script_succ, turned_cons_eq] at h
    rw [askedFrom_succ]
    cases hnext : next? name (listing.page cursor) with
    | none => simp [hnext] at h
    | some next =>
      rw [hnext, cursor?_of_next? hnext, Option.isSome_some, if_pos rfl] at h
      rw [List.length_cons, ih (List.cons.inj h).2]

end Listing

/-- Each request of a search but the first is for the cursor that the page just read names.  If the
pages name no cursor twice none is asked for twice, and if none is asked for twice there are at most
as many requests as there are cursors, and one.  A listing with only so many cursors, which answers
each one always alike, then ends the search.  If one is asked for twice, and only then, there is a
request for every answer and one more, however many answers there are. -/
theorem ends_or_goes_round (token name : Text) (insecure : Bool) :
    (∀ world : World,
      let pages := leadingPages world.script
      let ending := find token name insecure world
      ending.calls = (asked name pages).map (pageRequest token · insecure) ∧
      ((pages.filterMap cursor?).Nodup → (asked name pages).Nodup) ∧
      ∀ cursors : Finset Text,
        (∀ page ∈ pages, ∀ next, cursor? page = some next → next ∈ cursors) →
        (asked name pages).Nodup → ending.calls.length ≤ cursors.card + 1) ∧
    ∀ (listing : Listing) (world : World),
      let ending := fun n =>
        find token name insecure { world with script := listing.script n none }
      let cursors := fun n => asked name (leadingPages (listing.script n none))
      (∀ n, listing.cursors.card < n → (cursors n).Nodup →
        (∃ id, (ending n).result = .ok id) ∨
          (ending n).result = .error (.failure (.noChannel name))) ∧
      ((∃ n, ¬ (cursors n).Nodup) ↔ ∀ n, (ending n).calls.length = n + 1) := by
  constructor
  · intro world pages ending
    have hcalls : ending.calls = (asked name pages).map (pageRequest token · insecure) :=
      (firstMatch_find token name insecure world).calls
    refine ⟨hcalls, fun h => ?_, fun cursors hnamed h => ?_⟩
    · exact (nodup_asked_iff name pages).2 ((followed_sublist name pages).nodup h)
    · rw [hcalls, List.length_map]
      exact length_asked_le hnamed h
  · intro listing world ending cursors
    have hmatch (n : Nat) :
        FirstMatch token name insecure none (listing.script n none) (ending n) :=
      firstMatch_find token name insecure { world with script := listing.script n none }
    have hlength (n : Nat) : (ending n).calls.length = (cursors n).length := by
      rw [(hmatch n).calls, List.length_map]
      rfl
    have hbound (n : Nat) (h : (cursors n).Nodup) :
        (cursors n).length ≤ listing.cursors.card + 1 :=
      length_asked_le (fun _ hpage _ => Listing.named_of_mem_leadingPages hpage) h
    refine ⟨fun n hn h => ?_, ?_, ?_⟩
    · have hends := (hmatch n).ends
      generalize (ending n).result = result at hends
      cases hends with
      | found _ _ => exact Or.inl ⟨_, rfl⟩
      | exhausted _ _ _ => exact Or.inr rfl
      | broken hall _ _ =>
        have hlength : (cursors n).length = n + 1 := Listing.length_askedFrom_of_turned hall
        have hle := hbound n h
        omega
    · rintro ⟨n, h⟩ m
      rw [hlength]
      exact Listing.length_askedFrom_of_not_nodup h m
    · intro hround
      refine ⟨listing.cursors.card + 1, fun h => ?_⟩
      have hle := hbound _ h
      rw [← hlength, hround] at hle
      omega

/-- One page, whatever the cursor, and it names a cursor. -/
def Listing.circular : Listing :=
  let page : Members := [("ok", .bool true), ("channels", .list []),
    ("response_metadata", .object [("next_cursor", .string "a")])]
  { answer := fun _ => ⟨[], .response ⟨okStatus, "OK", .text (Json.object page).compact⟩⟩
    page := fun _ => page
    isPage := fun _ => by decide +kernel
    cursors := {("a" : Text)}
    named := fun _ _ h => Finset.mem_singleton.2 (Option.some.inj h).symm }

/-- The cursor that every page names is asked for twice, and once more for each further answer. -/
theorem cursor_asked_for_twice :
    let last : Turn := ⟨[], .response ⟨okStatus, "OK", .text
      (Json.object [("ok", .bool true), ("channels", .list [])]).compact⟩⟩
    let calls (script : List Turn) := (find "xoxb-1" "ops" false ⟨script, default, []⟩).calls
    calls (Listing.circular.script 2 none ++ [last]) =
        [none, some ("a" : Text), some "a"].map (pageRequest "xoxb-1" · false) ∧
      ∀ n, (calls (Listing.circular.script n none)).length = n + 1 := by
  intro last calls
  refine ⟨by decide +kernel, fun n => ?_⟩
  have htwice : ¬ (Listing.circular.askedFrom "ops" 2 none).Nodup := by decide +kernel
  have hcalls : calls (Listing.circular.script n none) =
      (Listing.circular.askedFrom "ops" n none).map (pageRequest "xoxb-1" · false) :=
    (firstMatch_find "xoxb-1" "ops" false ⟨_, default, []⟩).calls
  rw [hcalls, List.length_map]
  exact Listing.length_askedFrom_of_not_nodup htwice n

end SlackCourier.Channel
