import SlackCourier.Proofs.Channel.Search
import SlackCourier.Proofs.Json.Members

/-!
# The search is for the first match

The pages that a script begins with are read off the script alone: answers that are pages, each but
the last naming the cursor of the next.  A search for a channel finds the first entry with its name
in all of these pages, one after the other, and asks for no page beyond the one that has it.  If
none has it, the search ends with the page that names no cursor, or fails with the first answer that
is no page.
-/

namespace SlackCourier.Channel

open Session

/-- The object of a response that is a page: its status is 200, and its object says that all is
well. -/
def pageOf? (response : Response) : Option Members :=
  if response.status = okStatus then
    match response.object with
    | .ok answer => if isOk answer then some answer else none
    | .error _ => none
  else none

def pageIn? (turn : Turn) : Option Members :=
  match turn.answer with
  | .response response => pageOf? response
  | .failure _ => none

/-- The longest run of pages that a script begins with, each but the last with a cursor for the
next. -/
def leadingPages : List Turn → List Members
  | [] => []
  | turn :: rest =>
    match pageIn? turn with
    | some page => page :: if (cursor? page).isSome then leadingPages rest else []
    | none => []

/-- The id in an entry for a channel: the entry is an object with that name, and its id is a
string. -/
def idFor? (name : Text) (entry : Json) : Option Text :=
  if entry.member? "name" = some (.string name) then (entry.member? "id").bind Json.text? else none

/-- The id in the first entry of a page for a channel. -/
def firstId? (name : Text) (page : Members) : Option Text := (entries page).findSome? (idFor? name)

/-- The pages that are turned: those before the first that has the channel or names no cursor. -/
def turned (name : Text) (pages : List Members) : List Members :=
  pages.takeWhile fun page => (firstId? name page).isNone && (cursor? page).isSome

/-- The cursors that are asked for: none at first, then that of each page that is turned. -/
def asked (name : Text) (pages : List Members) : List (Option Text) :=
  none :: (turned name pages).map cursor?

def pageUrl (cursor : Option Text) : Text :=
  Endpoint.channels ++ "?" ++ Text.formEncode (pageQuery cursor)

/-- What a request for a URL meets when a script is all that is to come. -/
def meets (url : Text) : List Turn → Except (Option Text) Response
  | [] => .error (some scriptOver)
  | turn :: _ => turn.answer.settle url

/-- Why what a request for a page meets is no page, and the fault that is made of it. -/
inductive Unfit (url : Text) : Except (Option Text) Response → Fault → Prop
  | unanswered (reason : Text) : Unfit url (.error (some reason))
      (.failure (.noResponse "conversations.list"
        (Text.replaceAll url "conversations.list" reason)))
  | wordless : Unfit url (.error none) (.mishap .wordless)
  | status {response : Response} : response.status ≠ okStatus → Unfit url (.ok response)
      (.failure (.badStatus .listingChannels response.status response.statusText))
  | unreadable {response : Response} {fault : Fault} : response.status = okStatus →
      response.object = .error fault → Unfit url (.ok response) fault
  | refused {response : Response} {answer : Members} : response.status = okStatus →
      response.object = .ok answer → isOk answer = false →
      Unfit url (.ok response) (.failure (.channelsRefused (errorWord? answer)))

/-- How a search for a name ends that began with the page at a cursor. -/
inductive Ends (name : Text) (script : List Turn) (cursor : Option Text) :
    Except Fault Text → Prop
  /-- The page after those that are turned has the channel. -/
  | found {page : Members} {id : Text} :
      (leadingPages script)[(turned name (leadingPages script)).length]? = some page →
      firstId? name page = some id → Ends name script cursor (.ok id)
  /-- It has not, and is the last one. -/
  | exhausted {page : Members} :
      (leadingPages script)[(turned name (leadingPages script)).length]? = some page →
      firstId? name page = none → cursor? page = none →
      Ends name script cursor (.error (.failure (.noChannel name)))
  /-- All pages are turned, and the request for one more meets something else. -/
  | broken {last : Option Text} {fault : Fault} :
      turned name (leadingPages script) = leadingPages script →
      (cursor :: (leadingPages script).map cursor?).getLast? = some last →
      Unfit (pageUrl last) (meets (pageUrl last) (script.drop (leadingPages script).length)) fault →
      Ends name script cursor (.error fault)

theorem entry?_eq (value : Json) : entry? value =
    ((value.member? "name").bind Json.text?).bind fun name =>
      ((value.member? "id").bind Json.text?).map fun id => (name, id) := by
  unfold entry?
  cases (value.member? "name").bind Json.text? with
  | none => rfl
  | some name => cases (value.member? "id").bind Json.text? <;> rfl

theorem lookup_filterMap_entry? (name : Text) (items : List Json) :
    (items.filterMap entry?).lookup name = items.findSome? (idFor? name) := by
  induction items with
  | nil => rfl
  | cons value rest ih =>
    have hfor : idFor? name value = if value.member? "name" = some (.string name) then
        (value.member? "id").bind Json.text? else none := rfl
    rw [List.filterMap_cons, List.findSome?_cons, entry?_eq, hfor]
    cases hname : (value.member? "name").bind Json.text? with
    | none =>
      have hother : value.member? "name" ≠ some (.string name) := by
        intro h
        rw [Json.bind_text?_eq_some_iff.2 h] at hname
        cases hname
      simp [hother, ih]
    | some given =>
      rw [Json.bind_text?_eq_some_iff] at hname
      cases hid : (value.member? "id").bind Json.text? with
      | none => simp [ih]
      | some id =>
        by_cases hgiven : name = given
        · simp [hname, hgiven]
        · have hne : (name == given) = false := by simpa using hgiven
          have hother : ¬ given = name := fun h => hgiven h.symm
          simp [hname, hne, hother, ih, List.lookup_cons]

theorem pageOf?_of_settle {turn : Turn} {url : Text} {response : Response}
    (h : turn.answer.settle url = .ok response) : pageIn? turn = pageOf? response := by
  unfold pageIn?
  cases hanswer : turn.answer with
  | response other =>
    rw [hanswer] at h
    rw [← Except.ok.inj h]
  | failure reason => simp [hanswer, Answer.settle] at h

theorem settle_of_pageIn? {turn : Turn} {page : Members} (url : Text)
    (h : pageIn? turn = some page) :
    ∃ response, turn.answer.settle url = .ok response ∧ pageOf? response = some page := by
  unfold pageIn? at h
  cases hanswer : turn.answer with
  | response response =>
    rw [hanswer] at h
    exact ⟨response, rfl, h⟩
  | failure reason => simp [hanswer] at h

def listed (page : Members) : Page := ⟨(entries page).filterMap entry?, cursor? page⟩

@[simp] theorem find?_listed (page : Members) (name : Text) :
    (listed page).find? name = firstId? name page := lookup_filterMap_entry? name (entries page)

@[simp] theorem next_listed (page : Members) : (listed page).next = cursor? page := rfl

section

variable {url : Text} {met : Except (Option Text) Response}

theorem readListing_of_page {response : Response} {page : Members}
    (h : pageOf? response = some page) : readListing url (.ok response) = .ok (listed page) := by
  unfold pageOf? at h
  split_ifs at h with hstatus
  cases hobject : response.object with
  | error failure => simp [hobject] at h
  | ok answer =>
    rw [hobject] at h
    dsimp only at h
    split_ifs at h with hok
    obtain rfl := Option.some.inj h
    have hread : Step.listingChannels.readObject "conversations.list" url (.ok response) =
        .ok answer := Step.readObject_eq_ok_iff.2 ⟨response, rfl, hstatus, hobject⟩
    simp [readListing, hread, Except.bind, Page.of, hok, listed]

theorem readListing_of_unfit (h : ∀ response, met = .ok response → pageOf? response = none) :
    ∃ fault, readListing url met = .error fault ∧ Unfit url met fault := by
  unfold readListing Step.readObject Step.read
  cases met with
  | error reason =>
    cases reason with
    | none => exact ⟨_, rfl, .wordless⟩
    | some reason => exact ⟨_, rfl, .unanswered reason⟩
  | ok response =>
    have hpage := h response rfl
    unfold pageOf? at hpage
    by_cases hstatus : response.status = okStatus
    · rw [if_pos hstatus] at hpage
      cases hobject : response.object with
      | error failure =>
        exact ⟨_, by simp [received, Except.bind, hstatus, hobject], .unreadable hstatus hobject⟩
      | ok answer =>
        have hrefused : isOk answer = false := by
          cases hok : isOk answer with
          | false => rfl
          | true => simp [hobject, hok] at hpage
        exact ⟨_, by simp [received, Except.bind, hstatus, hobject, Page.of, hrefused],
          .refused hstatus hobject hrefused⟩
    · exact ⟨_, by simp [received, Except.bind, hstatus], .status hstatus⟩

end

section

variable {name : Text} {page : Members} {pages : List Members}

theorem turned_cons_of_found {id : Text} (h : firstId? name page = some id) :
    turned name (page :: pages) = [] := by
  simp [turned, h]

theorem turned_cons_of_last (h : cursor? page = none) : turned name (page :: pages) = [] := by
  simp [turned, h]

theorem turned_cons {next : Text} (hfind : firstId? name page = none)
    (hnext : cursor? page = some next) :
    turned name (page :: pages) = page :: turned name pages := by
  simp [turned, hfind, hnext]

theorem Ends.turn {turn : Turn} {rest : List Turn} {cursor : Option Text} {next : Text}
    {result : Except Fault Text} (hpages : leadingPages (turn :: rest) = page :: leadingPages rest)
    (hfind : firstId? name page = none) (hnext : cursor? page = some next)
    (h : Ends name rest (some next) result) : Ends name (turn :: rest) cursor result := by
  have hturned : turned name (leadingPages (turn :: rest)) =
      page :: turned name (leadingPages rest) := by
    rw [hpages, turned_cons hfind hnext]
  cases h with
  | found hpage hid =>
    refine .found ?_ hid
    rw [hturned, hpages]
    exact hpage
  | exhausted hpage hnone hlast =>
    refine .exhausted ?_ hnone hlast
    rw [hturned, hpages]
    exact hpage
  | @broken last fault hall hlast hunfit =>
    have hasked : (cursor :: (leadingPages (turn :: rest)).map cursor?).getLast? = some last := by
      rw [hpages, List.map_cons, hnext, List.getLast?_cons_cons]
      exact hlast
    refine .broken ?_ hasked ?_
    · rw [hturned, hpages, hall]
    · rw [hpages]
      exact hunfit

end

section

variable {token name : Text} {insecure : Bool} {cursor : Option Text} {world : World}

theorem answer_eq_meets (world : World) (url : Text) :
    (world.answer url).1 = meets url world.script := by
  unfold World.answer meets
  cases world.script <;> rfl

/-- Whether an ending is that of a search for the first match, begun with the page at a cursor. -/
structure FirstMatch (token name : Text) (insecure : Bool) (cursor : Option Text)
    (script : List Turn) (ending : Ending Fault Text) : Prop where
  calls : ending.calls = (cursor :: (turned name (leadingPages script)).map cursor?).map
    (pageRequest token · insecure)
  ends : Ends name script cursor ending.result
  id_iff : ∀ id, ending.result = .ok id ↔
    (leadingPages script).findSome? (firstId? name) = some id

theorem firstMatch_of_unfit (hpages : leadingPages world.script = [])
    (hmet : ∀ response, meets (pageUrl cursor) world.script = .ok response →
      pageOf? response = none) :
    FirstMatch token name insecure cursor world.script
      (search token name insecure cursor world) := by
  obtain ⟨fault, hread, hunfit⟩ := readListing_of_unfit hmet
  rw [← answer_eq_meets] at hread
  rw [search_of_error hread]
  refine ⟨?_, ?_, ?_⟩
  · rw [hpages]
    rfl
  · exact .broken (by rw [hpages]; rfl) (by rw [hpages]; rfl) (by rw [hpages]; exact hunfit)
  · simp [hpages]

theorem leadingPages_cons {turn : Turn} {page : Members} (hpage : pageIn? turn = some page)
    (rest : List Turn) : leadingPages (turn :: rest) =
      page :: if (cursor? page).isSome then leadingPages rest else [] := by
  simp [leadingPages, hpage]

theorem readListing_of_pageIn? {turn : Turn} {rest : List Turn} {page : Members}
    (hscript : world.script = turn :: rest) (hpage : pageIn? turn = some page) :
    readListing (pageUrl cursor) (world.answer (pageUrl cursor)).1 = .ok (listed page) := by
  obtain ⟨response, hmet, hresponse⟩ := settle_of_pageIn? (pageUrl cursor) hpage
  have hmeets : meets (pageUrl cursor) world.script = .ok response := hscript ▸ hmet
  rw [answer_eq_meets, hmeets]
  exact readListing_of_page hresponse

section

variable {page : Members}
  (hread : readListing (pageUrl cursor) (world.answer (pageUrl cursor)).1 = .ok (listed page))

include hread

theorem firstMatch_of_found {more : List Members} {id : Text}
    (hpages : leadingPages world.script = page :: more) (hfind : firstId? name page = some id) :
    FirstMatch token name insecure cursor world.script
      (search token name insecure cursor world) := by
  rw [search_of_found hread (by rw [find?_listed, hfind])]
  refine ⟨?_, ?_, ?_⟩
  · rw [hpages, turned_cons_of_found hfind]
    rfl
  · refine .found ?_ hfind
    rw [hpages, turned_cons_of_found hfind]
    rfl
  · simp [hpages, hfind]

theorem firstMatch_of_last (hpages : leadingPages world.script = [page])
    (hfind : firstId? name page = none) (hnext : cursor? page = none) :
    FirstMatch token name insecure cursor world.script
      (search token name insecure cursor world) := by
  rw [search_of_last hread (by rw [find?_listed, hfind]) hnext]
  refine ⟨?_, ?_, ?_⟩
  · rw [hpages, turned_cons_of_last hnext]
    rfl
  · refine .exhausted ?_ hfind hnext
    rw [hpages, turned_cons_of_last hnext]
    rfl
  · simp [hpages, hfind]

theorem firstMatch_of_turn {turn : Turn} {rest : List Turn} {next : Text}
    (hpages : leadingPages (turn :: rest) = page :: leadingPages rest)
    (hfind : firstId? name page = none) (hnext : cursor? page = some next)
    (hrest : FirstMatch token name insecure (some next) rest
      (search token name insecure (some next) (world.answer (pageUrl cursor)).2)) :
    FirstMatch token name insecure cursor (turn :: rest)
      (search token name insecure cursor world) := by
  rw [search_of_turn hread (by rw [find?_listed, hfind]) hnext]
  refine ⟨?_, hrest.ends.turn hpages hfind hnext, ?_⟩
  · have hasked : (turned name (leadingPages (turn :: rest))).map cursor? =
        some next :: (turned name (leadingPages rest)).map cursor? := by
      rw [hpages, turned_cons hfind hnext, List.map_cons, hnext]
    rw [hasked]
    exact congrArg (pageRequest token cursor insecure :: ·) hrest.calls
  · simp only [hpages, List.findSome?_cons, hfind]
    exact hrest.id_iff

end

/-- Every search is one for the first match: by induction on the script, which gives up one answer
for each page. -/
theorem firstMatch_search (token name : Text) (insecure : Bool) (cursor : Option Text)
    (world : World) : FirstMatch token name insecure cursor world.script
      (search token name insecure cursor world) := by
  induction hscript : world.script generalizing world cursor with
  | nil =>
    rw [← hscript]
    refine firstMatch_of_unfit (by rw [hscript]; rfl) fun response hmet => ?_
    rw [hscript] at hmet
    cases hmet
  | cons turn rest ih =>
    cases hpage : pageIn? turn with
    | none =>
      rw [← hscript]
      refine firstMatch_of_unfit (by simp [hscript, leadingPages, hpage]) fun response hmet => ?_
      rw [hscript] at hmet
      exact pageOf?_of_settle hmet ▸ hpage
    | some page =>
      have hread := @readListing_of_pageIn? cursor world turn rest page hscript hpage
      have hpages := leadingPages_cons hpage rest
      cases hfind : firstId? name page with
      | some id =>
        rw [← hscript] at hpages ⊢
        exact firstMatch_of_found hread hpages hfind
      | none =>
        cases hnext : cursor? page with
        | none =>
          rw [hnext, ← hscript] at hpages
          rw [← hscript]
          exact firstMatch_of_last hread hpages hfind hnext
        | some next =>
          rw [hnext] at hpages
          have hafter : (world.answer (pageUrl cursor)).2.script = rest := by
            rw [World.script_answer, hscript, List.tail_cons]
          exact firstMatch_of_turn hread hpages hfind hnext (ih (some next) _ hafter)

theorem firstMatch_find (token name : Text) (insecure : Bool) (world : World) :
    FirstMatch token name insecure none world.script (find token name insecure world) :=
  firstMatch_search token name insecure none world

end

theorem findSome?_flatMap_entries (name : Text) (pages : List Members) :
    (pages.flatMap entries).findSome? (idFor? name) = pages.findSome? (firstId? name) := by
  induction pages with
  | nil => rfl
  | cons page rest ih =>
    rw [List.flatMap_cons, List.findSome?_append, List.findSome?_cons, ih]
    unfold firstId?
    cases (entries page).findSome? (idFor? name) <;> rfl

theorem Unfit.code {url : Text} {met : Except (Option Text) Response} {failure : Failure}
    (h : Unfit url met (.failure failure)) :
    failure.code = .transport ∨ failure.code = .protocol ∨ failure.code = .api := by
  cases h with
  | unanswered reason => exact Or.inl rfl
  | status _ => exact Or.inl rfl
  | refused => exact Or.inr (Or.inr rfl)
  | unreadable _ hobject =>
    rcases Response.object_eq_error hobject with ⟨cause, hcause, hcode⟩ | ⟨hmishap, -⟩
    · rw [Fault.failure.inj hcause]
      exact hcode.imp_right Or.inl
    · cases hmishap

theorem Unfit.wordless_of_mishap {url : Text} {met : Except (Option Text) Response}
    {mishap : Mishap} (h : Unfit url met (.mishap mishap)) :
    SlackCourier.Wordless met ∧ mishap = .wordless := by
  cases h with
  | wordless => exact ⟨.unanswered, rfl⟩
  | unreadable hstatus hobject =>
    rcases Response.object_eq_error hobject with ⟨cause, hcause, -⟩ | ⟨hmishap, hbody⟩
    · cases hcause
    · exact ⟨.unread hstatus hbody, Fault.mishap.inj hmishap⟩

theorem Unfit.eq_of_wordless {url : Text} {met : Except (Option Text) Response} {fault : Fault}
    (h : Unfit url met fault) (hwordless : SlackCourier.Wordless met) :
    fault = .mishap .wordless := by
  cases hwordless with
  | unanswered =>
    cases h
    rfl
  | unread hstatus hbody =>
    cases h with
    | status hother => exact absurd hstatus hother
    | unreadable _ hobject =>
      rw [Response.object, hbody] at hobject
      exact (Except.error.inj hobject).symm
    | refused _ hobject _ =>
      rw [Response.object, hbody] at hobject
      cases hobject

theorem wordless_meets_iff {url : Text} {script : List Turn} :
    SlackCourier.Wordless (meets url script) ↔
      ∃ turn, script.head? = some turn ∧ turn.answer.Wordless := by
  have hanswer := @World.wordless_answer_iff ⟨script, default, []⟩ url
  rwa [answer_eq_meets] at hanswer

section

variable {name : Text} {script : List Turn} {cursor : Option Text}

theorem Ends.code {failure : Failure} (h : Ends name script cursor (.error (.failure failure))) :
    failure = .noChannel name ∨ failure.code = .transport ∨ failure.code = .protocol ∨
      failure.code = .api := by
  cases h with
  | exhausted => exact Or.inl rfl
  | broken _ _ hunfit => exact Or.inr hunfit.code

/-- A search that turns all the pages, and then meets an answer without words, ends with the mishap,
and every other search without one. -/
theorem Ends.mishap_iff {result : Except Fault Text} (h : Ends name script cursor result)
    (mishap : Mishap) : result = .error (.mishap mishap) ↔ mishap = .wordless ∧
      turned name (leadingPages script) = leadingPages script ∧
      ∃ turn, script[(leadingPages script).length]? = some turn ∧ turn.answer.Wordless := by
  have hlast {page : Members}
      (hpage : (leadingPages script)[(turned name (leadingPages script)).length]? = some page) :
      turned name (leadingPages script) ≠ leadingPages script := by
    intro hall
    rw [hall] at hpage
    simp at hpage
  cases h with
  | found hpage _ => simp [hlast hpage]
  | exhausted hpage _ _ => simp [hlast hpage]
  | @broken last fault hall _ hunfit =>
    rw [← List.head?_drop, ← @wordless_meets_iff (pageUrl last)]
    constructor
    · intro hmishap
      rw [Except.error.inj hmishap] at hunfit
      obtain ⟨hwordless, hsame⟩ := hunfit.wordless_of_mishap
      exact ⟨hsame, hall, hwordless⟩
    · rintro ⟨rfl, -, hwordless⟩
      rw [hunfit.eq_of_wordless hwordless]

/-- If the page after those that are turned has the channel, it is the first one that has it. -/
theorem findIdx_eq_length_turned {pages : List Members} {page : Members} {id : Text}
    (hpage : pages[(turned name pages).length]? = some page) (hid : firstId? name page = some id) :
    pages.findIdx (fun page => (firstId? name page).isSome) = (turned name pages).length := by
  induction pages with
  | nil => cases hpage
  | cons first rest ih =>
    cases hfind : firstId? name first with
    | some other =>
      rw [turned_cons_of_found hfind, List.findIdx_cons, hfind]
      rfl
    | none =>
      cases hnext : cursor? first with
      | none =>
        rw [turned_cons_of_last hnext, List.length_nil, List.getElem?_cons_zero] at hpage
        obtain rfl := Option.some.inj hpage
        rw [hfind] at hid
        cases hid
      | some next =>
        rw [turned_cons hfind hnext, List.length_cons, List.getElem?_cons_succ] at hpage
        rw [turned_cons hfind hnext, List.findIdx_cons, hfind, List.length_cons, ← ih hpage]
        rfl

theorem Ends.findIdx_eq {id : Text} (h : Ends name script cursor (.ok id)) :
    (leadingPages script).findIdx (fun page => (firstId? name page).isSome) =
      (turned name (leadingPages script)).length := by
  cases h with
  | found hpage hid => exact findIdx_eq_length_turned hpage hid

end

/-- A search for a channel is one for the first match in the pages that the script begins with, all
taken together.  It asks for the first page without a cursor and for each further one with the
cursor of the page before it, up to the page that has the channel.  If none has it, the search fails
after the page without a cursor, or with what the first unfit answer makes of it.  This has a code
of its own kind, unless there are no words for why that answer is no page. -/
theorem find_first_match (token name : Text) (insecure : Bool) (world : World) :
    let pages := leadingPages world.script
    let ending := find token name insecure world
    (∀ id, ending.result = .ok id ↔
      (pages.flatMap entries).findSome? (idFor? name) = some id) ∧
    ending.calls = (asked name pages).map (pageRequest token · insecure) ∧
    (∀ id, ending.result = .ok id →
      ending.calls.length = pages.findIdx (fun page => (firstId? name page).isSome) + 1) ∧
    Ends name world.script none ending.result ∧
    (∀ failure, ending.result = .error (.failure failure) → failure = .noChannel name ∨
      failure.code = .transport ∨ failure.code = .protocol ∨ failure.code = .api) ∧
    ∀ mishap, ending.result = .error (.mishap mishap) ↔ mishap = .wordless ∧
      turned name pages = pages ∧
      ∃ turn, world.script[pages.length]? = some turn ∧ turn.answer.Wordless := by
  intro pages ending
  have hmatch : FirstMatch token name insecure none world.script ending :=
    firstMatch_find token name insecure world
  refine ⟨fun id => ?_, hmatch.calls, fun id hid => ?_, hmatch.ends, fun failure hfailure => ?_,
    hmatch.ends.mishap_iff⟩
  · rw [findSome?_flatMap_entries]
    exact hmatch.id_iff id
  · have hends := hmatch.ends
    rw [hid] at hends
    rw [hends.findIdx_eq, hmatch.calls, List.length_map, List.length_cons, List.length_map]
  · have hends := hmatch.ends
    rw [hfailure] at hends
    exact hends.code

/-- A rejection without words, of a request or of a body, leaves a search without any failure of its
own. -/
theorem wordless_rejection_is_no_failure :
    let search (answer : Answer) := find "xoxb-1" "ops" false ⟨[⟨[], answer⟩], default, []⟩
    ∀ answer ∈ [.failure none, .response ⟨okStatus, "OK", .broken none⟩],
      (search answer).calls = [pageRequest "xoxb-1" none false] ∧
        ∀ failure, (search answer).result ≠ .error (.failure failure) := by
  intro search answer hanswer
  have hwordless : answer.Wordless := by
    simp only [List.mem_cons, List.not_mem_nil, or_false] at hanswer
    exact hanswer.imp_right fun h => ⟨_, h, rfl, rfl⟩
  have hpages : leadingPages [⟨[], answer⟩] = [] := by
    rcases hwordless with rfl | ⟨response, rfl, hstatus, hbody⟩
    · rfl
    · simp [leadingPages, pageIn?, pageOf?, Response.object, hstatus, hbody]
  have hmatch := firstMatch_find "xoxb-1" "ops" false ⟨[⟨[], answer⟩], default, []⟩
  have hmishap : (search answer).result = .error (.mishap .wordless) := by
    refine (hmatch.ends.mishap_iff .wordless).2 ⟨rfl, by rw [hpages]; rfl, ?_⟩
    exact ⟨⟨[], answer⟩, by rw [hpages]; rfl, hwordless⟩
  refine ⟨?_, fun failure h => ?_⟩
  · have hcalls := hmatch.calls
    rw [hpages] at hcalls
    exact hcalls
  · rw [hmishap] at h
    cases h

end SlackCourier.Channel
