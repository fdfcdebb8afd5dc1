import SlackCourier.Proofs.Exchange.Turns

/-!
# The search for a channel

A search reads pages until one has the channel, or one is the last, or one cannot be read.  The
pages that it turns are said here as a relation on the answers of the script, by number, and a
search comes to what the page after them says.
-/

namespace SlackCourier.Channel

open Session

/-- Whether the answer with a number shows a page. -/
def Shows (world : World) (n : Nat) (page : Page) : Prop :=
  ∃ answer, world.Grants n answer ∧ Page.of answer = .ok page

/-- Whether the answer with a number shows a page that has the channel, under an id. -/
def Finds (world : World) (name : Text) (n : Nat) (id : Text) : Prop :=
  ∃ page, Shows world n page ∧ page.find? name = some id

/-- The pages that a search turns from the answer with a number on: the cursors with which they were
asked for, and that of the page after them. -/
inductive Turns (world : World) (name : Text) :
    Nat → Option Text → List (Option Text) → Option Text → Prop
  | here (n : Nat) (cursor : Option Text) : Turns world name n cursor [] cursor
  | turn {n : Nat} {cursor last : Option Text} {page : Page} {next : Text}
      {rest : List (Option Text)} :
      Shows world n page → page.find? name = none → page.next = some next →
      Turns world name (n + 1) (some next) rest last →
      Turns world name n cursor (cursor :: rest) last

theorem Shows.unique {world : World} {n : Nat} {first second : Page}
    (hfirst : Shows world n first) (hsecond : Shows world n second) : first = second := by
  obtain ⟨answer, hgrants, hpage⟩ := hfirst
  obtain ⟨other, hagain, hother⟩ := hsecond
  rw [hgrants.unique hagain, hother] at hpage
  exact (Except.ok.inj hpage).symm

theorem readListing_eq_ok_iff {world between : World} {n : Nat} (h : world.Later between n)
    {url : Text} {page : Page} :
    readListing url (between.answer url).1 = .ok page ↔ Shows world n page := by
  unfold readListing Shows
  constructor
  · intro hread
    cases hobject : Step.listingChannels.readObject "conversations.list" url
        (between.answer url).1 with
    | error fault => simp [hobject, Except.bind] at hread
    | ok answer =>
      rw [hobject] at hread
      exact ⟨answer, h.readObject_eq_ok_iff.1 hobject, mapError_eq_ok_iff.1 hread⟩
  · rintro ⟨answer, hgrants, hpage⟩
    rw [h.readObject_eq_ok_iff.2 hgrants]
    exact mapError_eq_ok_iff.2 hpage

section

variable {token name : Text} {insecure : Bool} {cursor : Option Text} {between : World}
  {page : Page}

theorem search_of_error {fault : Fault} (h : readListing (pageRequest token cursor insecure).url
      (between.answer (pageRequest token cursor insecure).url).1 = .error fault) :
    search token name insecure cursor between =
      ⟨.error fault, [.request (pageRequest token cursor insecure)],
        (between.answer (pageRequest token cursor insecure).url).2⟩ := by
  rw [search_eq, readPage_eq_once]
  exact bind_error h

theorem search_of_found {id : Text} (h : readListing (pageRequest token cursor insecure).url
      (between.answer (pageRequest token cursor insecure).url).1 = .ok page)
    (hfind : page.find? name = some id) :
    search token name insecure cursor between =
      ⟨.ok id, [.request (pageRequest token cursor insecure)],
        (between.answer (pageRequest token cursor insecure).url).2⟩ := by
  rw [search_eq, readPage_eq_once, bind_ok h]
  simp [hfind]

theorem search_of_last (h : readListing (pageRequest token cursor insecure).url
      (between.answer (pageRequest token cursor insecure).url).1 = .ok page)
    (hfind : page.find? name = none) (hlast : page.next = none) :
    search token name insecure cursor between =
      ⟨.error (.failure (.noChannel name)), [.request (pageRequest token cursor insecure)],
        (between.answer (pageRequest token cursor insecure).url).2⟩ := by
  rw [search_eq, readPage_eq_once, bind_ok h]
  simp [hfind, hlast]

theorem search_of_turn {next : Text} (h : readListing (pageRequest token cursor insecure).url
      (between.answer (pageRequest token cursor insecure).url).1 = .ok page)
    (hfind : page.find? name = none) (hnext : page.next = some next) :
    let after := (between.answer (pageRequest token cursor insecure).url).2
    let rest := search token name insecure (some next) after
    search token name insecure cursor between =
      ⟨rest.result, .request (pageRequest token cursor insecure) :: rest.trace, rest.world⟩ := by
  intro after rest
  rw [search_eq, readPage_eq_once, bind_ok h]
  simp [hfind, hnext, after, rest]

theorem script_after_page (h : readListing (pageRequest token cursor insecure).url
      (between.answer (pageRequest token cursor insecure).url).1 = .ok page) :
    (between.answer (pageRequest token cursor insecure).url).2.script.length <
      between.script.length := by
  have hless := advances_readPage token insecure cursor between
  rw [readPage_eq_once] at hless
  exact hless page h

end

theorem search_stops_or_turns {world between : World} {n : Nat} (hlater : world.Later between n)
    (token name : Text) (insecure : Bool) (cursor : Option Text) :
    ((search token name insecure cursor between).calls = [pageRequest token cursor insecure] ∧
      ∀ id, (search token name insecure cursor between).result = .ok id ↔
        Finds world name n id) ∨
    ∃ page next, readListing (pageRequest token cursor insecure).url
        (between.answer (pageRequest token cursor insecure).url).1 = .ok page ∧
      page.find? name = none ∧ page.next = some next := by
  cases hread : readListing (pageRequest token cursor insecure).url
      (between.answer (pageRequest token cursor insecure).url).1 with
  | error fault =>
    have hnone : ∀ id, ¬ Finds world name n id := by
      rintro id ⟨page, hshows, -⟩
      rw [(readListing_eq_ok_iff hlater).2 hshows] at hread
      cases hread
    left
    rw [search_of_error hread]
    exact ⟨rfl, by simp [hnone]⟩
  | ok page =>
    have hshows : Shows world n page := (readListing_eq_ok_iff hlater).1 hread
    have hfinds : ∀ id, Finds world name n id ↔ page.find? name = some id := by
      intro id
      constructor
      · rintro ⟨other, hother, hfind⟩
        rw [hshows.unique hother]
        exact hfind
      · exact fun hfind => ⟨page, hshows, hfind⟩
    cases hfind : page.find? name with
    | some id =>
      left
      rw [search_of_found hread hfind]
      exact ⟨rfl, by simp [hfinds, hfind]⟩
    | none =>
      cases hnext : page.next with
      | none =>
        left
        rw [search_of_last hread hfind hnext]
        exact ⟨rfl, by simp [hfinds, hfind]⟩
      | some next => exact Or.inr ⟨page, next, rfl, hfind, hnext⟩

theorem turns_of_search {world between : World} {n : Nat} (hlater : world.Later between n)
    (token name : Text) (insecure : Bool) (cursor : Option Text) :
    ∃ turned last, Turns world name n cursor turned last ∧
      (search token name insecure cursor between).calls =
        (turned ++ [last]).map (pageRequest token · insecure) ∧
      ∀ id, (search token name insecure cursor between).result = .ok id ↔
        Finds world name (n + turned.length) id := by
  induction hlength : between.script.length using Nat.strongRecOn
    generalizing between n cursor with
  | ind answers ih =>
    obtain ⟨hcalls, hresult⟩ | ⟨page, next, hread, hfind, hnext⟩ :=
      search_stops_or_turns hlater token name insecure cursor
    · exact ⟨[], cursor, .here n cursor, hcalls, hresult⟩
    · have hshows : Shows world n page := (readListing_eq_ok_iff hlater).1 hread
      have hafter := hlater.trans
        (World.later_answer between (pageRequest token cursor insecure).url)
      obtain ⟨turned, last, hturns, hcalls, hresult⟩ :=
        ih _ (hlength ▸ script_after_page hread) hafter (some next) rfl
      have hnumber : n + (cursor :: turned).length = n + 1 + turned.length := by
        rw [List.length_cons]
        omega
      rw [search_of_turn hread hfind hnext]
      refine ⟨cursor :: turned, last, .turn hshows hfind hnext hturns, ?_, hnumber ▸ hresult⟩
      exact congrArg (pageRequest token cursor insecure :: ·) hcalls

theorem turns_of_find {world between : World} {n : Nat} (hlater : world.Later between n)
    (token name : Text) (insecure : Bool) :
    ∃ turned last, Turns world name n none turned last ∧
      (find token name insecure between).calls =
        (turned ++ [last]).map (pageRequest token · insecure) ∧
      ∀ id, (find token name insecure between).result = .ok id ↔
        Finds world name (n + turned.length) id :=
  turns_of_search hlater token name insecure none

end SlackCourier.Channel
