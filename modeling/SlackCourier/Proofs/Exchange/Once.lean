import SlackCourier.Channel
import SlackCourier.Message.Delivery
import SlackCourier.Message.Lookup

/-!
# Steps of one request

A step sends one request and reads what the request meets.  It looks at no file, and what it comes
to is a function of what was met alone.  Every step of a task is put into this form here, so that
nothing about a task has to open a step again.
-/

namespace SlackCourier

section

variable {ε ε' α : Type} {f : ε → ε'}

@[simp] theorem mapError_ok (value : α) : (Except.ok value).mapError f = .ok value := rfl

@[simp] theorem mapError_error (error : ε) :
    (Except.error error : Except ε α).mapError f = .error (f error) := rfl

@[simp] theorem mapError_eq_ok_iff {done : Except ε α} {value : α} :
    done.mapError f = .ok value ↔ done = .ok value := by
  cases done <;> simp

end

namespace Session

variable {ε α β : Type}

@[simp] theorem pure_bind (value : α) (next : α → Session ε β) :
    (Pure.pure value >>= next) = next value := rfl

@[simp] theorem fail_bind (error : ε) (next : α → Session ε β) :
    (fail error >>= next) = fail error := rfl

theorem bind_assoc {γ : Type} (first : Session ε α) (next : α → Session ε β)
    (last : β → Session ε γ) :
    ((first >>= next) >>= last) = first >>= fun value => next value >>= last := by
  funext world
  cases hfirst : (first world).result with
  | error error =>
    have hboth : ((first >>= next) world).result = .error error := by rw [bind_error hfirst]
    rw [bind_error hboth, bind_error hfirst, bind_error hfirst]
  | ok value =>
    rw [bind_ok hfirst]
    cases hnext : (next value (first world).world).result with
    | error error =>
      have hboth : ((first >>= next) world).result = .error error := by
        rw [bind_ok hfirst]
        exact hnext
      rw [bind_error hboth, bind_error hnext, bind_ok hfirst]
    | ok between =>
      have hboth : ((first >>= next) world).result = .ok between := by
        rw [bind_ok hfirst]
        exact hnext
      rw [bind_ok hboth, bind_ok hnext, bind_ok hfirst, List.append_assoc]

/-- One request, with the reading of what it meets. -/
def once (r : Request) (read : Except (Option Text) Response → Except ε α) : Session ε α :=
  fun world => ⟨read (world.answer r.url).1, [.request r], (world.answer r.url).2⟩

@[simp] theorem once_apply (r : Request) (read : Except (Option Text) Response → Except ε α)
    (world : World) : once r read world =
      ⟨read (world.answer r.url).1, [.request r], (world.answer r.url).2⟩ := rfl

theorem once_bind_lift (r : Request) (read : Except (Option Text) Response → Except ε α)
    (next : α → Except ε β) :
    (once r read >>= fun value => lift (next value)) = once r fun met => (read met).bind next := by
  funext world
  cases h : read (world.answer r.url).1 with
  | error error =>
    have hfirst : (once r read world).result = .error error := h
    rw [bind_error hfirst]
    simp [h, Except.bind]
  | ok value =>
    have hfirst : (once r read world).result = .ok value := h
    rw [bind_ok hfirst]
    cases hnext : next value <;> simp [h, hnext, Except.bind]

end Session

theorem World.answer_eq_ok {world : World} {url : Text} {response : Response}
    (h : (world.answer url).1 = .ok response) :
    ∃ turn rest, world.script = turn :: rest ∧ turn.answer = .response response := by
  unfold World.answer at h
  cases hs : world.script with
  | nil =>
    rw [hs] at h
    cases h
  | cons turn rest =>
    rw [hs] at h
    refine ⟨turn, rest, rfl, ?_⟩
    cases ha : turn.answer with
    | response answer =>
      simp only [ha, Answer.settle, Except.ok.injEq] at h
      rw [h]
    | failure reason => simp [ha, Answer.settle] at h

/-- Whether there are no words for why what a request meets is no object: there is no response, or a
response whose body cannot be read, for a reason without words. -/
inductive Wordless : Except (Option Text) Response → Prop
  | unanswered : Wordless (.error none)
  | unread {response : Response} : response.status = okStatus → response.body = .broken none →
      Wordless (.ok response)

def Answer.Wordless (answer : Answer) : Prop :=
  answer = .failure none ∨ ∃ response, answer = .response response ∧
    response.status = okStatus ∧ response.body = .broken none

@[simp] theorem Answer.wordless_settle_iff {answer : Answer} {url : Text} :
    SlackCourier.Wordless (answer.settle url) ↔ answer.Wordless := by
  unfold Answer.Wordless
  constructor
  · intro h
    cases answer with
    | failure reason =>
      cases reason with
      | none => exact Or.inl rfl
      | some pieces => cases h
    | response response =>
      cases h with
      | unread hstatus hbody => exact Or.inr ⟨response, rfl, hstatus, hbody⟩
  · rintro (rfl | ⟨response, rfl, hstatus, hbody⟩)
    · exact .unanswered
    · exact .unread hstatus hbody

theorem World.wordless_answer_iff {world : World} {url : Text} :
    Wordless (world.answer url).1 ↔
      ∃ turn, world.script.head? = some turn ∧ turn.answer.Wordless := by
  unfold World.answer
  cases world.script with
  | nil =>
    simp only [List.head?_nil, reduceCtorEq, false_and, exists_false, iff_false]
    intro h
    cases h
  | cons turn rest => simp

def Endpoint.api : List Text :=
  [postMessage, updateMessage, history, channels, startUpload, completeUpload]

@[simp] theorem Endpoint.mem_api_iff {url : Text} : url ∈ api ↔ url = postMessage ∨
    url = updateMessage ∨ url = history ∨ url = channels ∨ url = startUpload ∨
      url = completeUpload := by
  simp [api]

/-- The response in what a request to a labelled other side met. -/
def received (label url : Text) : Except (Option Text) Response → Except Fault Response
  | .ok response => .ok response
  | .error (some reason) =>
    .error (.failure (.noResponse label (Text.replaceAll url label reason)))
  | .error none => .error (.mishap .wordless)

@[simp] theorem received_eq_ok_iff {label url : Text} {met : Except (Option Text) Response}
    {response : Response} : received label url met = .ok response ↔ met = .ok response := by
  cases met with
  | ok answer => simp [received]
  | error reason => cases reason <;> simp [received]

namespace Step

/-- The response in what a request of a step met, if its status is 200. -/
def read (step : Step) (label url : Text) (met : Except (Option Text) Response) :
    Except Fault Response :=
  (received label url met).bind fun response =>
    if response.status = okStatus then .ok response
    else .error (.failure (.badStatus step response.status response.statusText))

def readObject (step : Step) (label url : Text) (met : Except (Option Text) Response) :
    Except Fault Members :=
  (step.read label url met).bind Response.object

theorem read_eq_ok_iff {step : Step} {label url : Text} {met : Except (Option Text) Response}
    {response : Response} :
    step.read label url met = .ok response ↔ met = .ok response ∧ response.status = okStatus := by
  unfold read
  cases h : received label url met with
  | error fault =>
    have hne : met ≠ .ok response := fun hm => by
      rw [received_eq_ok_iff.2 hm] at h
      cases h
    simp [Except.bind, hne]
  | ok answer =>
    rw [received_eq_ok_iff] at h
    subst h
    by_cases hs : answer.status = okStatus
    · simp only [Except.bind, hs, if_true, Except.ok.injEq]
      exact ⟨fun he => ⟨he, he ▸ hs⟩, And.left⟩
    · simp only [Except.bind, hs, if_false, reduceCtorEq, Except.ok.injEq, false_iff]
      rintro ⟨rfl, he⟩
      exact hs he

theorem readObject_eq_ok_iff {step : Step} {label url : Text}
    {met : Except (Option Text) Response} {members : Members} :
    step.readObject label url met = .ok members ↔
      ∃ response, met = .ok response ∧ response.status = okStatus ∧
        response.object = .ok members := by
  unfold readObject
  cases h : step.read label url met with
  | error fault =>
    simp only [Except.bind, reduceCtorEq, false_iff]
    rintro ⟨response, hm, hs, -⟩
    rw [read_eq_ok_iff.2 ⟨hm, hs⟩] at h
    cases h
  | ok response =>
    obtain ⟨rfl, hs⟩ := read_eq_ok_iff.1 h
    simp only [Except.bind, Except.ok.injEq, exists_eq_left', hs, true_and]

end Step

theorem Response.object_eq_ok_iff {response : Response} {members : Members} :
    response.object = .ok members ↔
      ∃ body raw, response.body = .text body ∧ Json.parse body = some (.object raw) ∧
        members = Json.dropReservedMembers raw := by
  unfold Response.object
  cases response.body with
  | broken reason => cases reason <;> simp
  | crashed reason => simp
  | text body =>
    simp only [objectOf, mapError_eq_ok_iff, Reading.text.injEq, exists_and_left, exists_eq_left']
    cases hp : Json.parse body with
    | none => simp
    | some value => cases value <;> simp [eq_comm]

theorem code_of_objectOf {body : Text} {failure : Failure} (h : objectOf body = .error failure) :
    failure.code = .protocol := by
  unfold objectOf at h
  split at h
  · rw [← Except.error.inj h]
    rfl
  · cases h
  · rw [← Except.error.inj h]
    rfl

/-- A body that is no object is a failure of the transport or of the protocol, unless there are no
words for why it cannot be read. -/
theorem Response.object_eq_error {response : Response} {fault : Fault}
    (h : response.object = .error fault) :
    (∃ failure, fault = .failure failure ∧
      (failure.code = .transport ∨ failure.code = .protocol)) ∨
    fault = .mishap .wordless ∧ response.body = .broken none := by
  unfold Response.object at h
  cases hbody : response.body with
  | text body =>
    rw [hbody] at h
    cases hobject : objectOf body with
    | ok members => simp [hobject] at h
    | error failure =>
      simp only [hobject, mapError_error, Except.error.injEq] at h
      exact Or.inl ⟨failure, h.symm, Or.inr (code_of_objectOf hobject)⟩
  | broken reason =>
    rw [hbody] at h
    cases reason with
    | none => exact Or.inr ⟨(Except.error.inj h).symm, rfl⟩
    | some reason => exact Or.inl ⟨_, (Except.error.inj h).symm, Or.inl rfl⟩
  | crashed reason =>
    rw [hbody] at h
    exact Or.inl ⟨_, (Except.error.inj h).symm, Or.inl rfl⟩

/-- An object that cannot be read is a failure of the transport or of the protocol, unless there are
no words for why. -/
theorem Step.readObject_eq_error {step : Step} {label url : Text}
    {met : Except (Option Text) Response} {fault : Fault}
    (h : step.readObject label url met = .error fault) :
    (∃ failure, fault = .failure failure ∧
      (failure.code = .transport ∨ failure.code = .protocol)) ∨
    fault = .mishap .wordless ∧ Wordless met := by
  unfold readObject read at h
  cases met with
  | error reason =>
    cases reason with
    | none => exact Or.inr ⟨(Except.error.inj h).symm, .unanswered⟩
    | some reason => exact Or.inl ⟨_, (Except.error.inj h).symm, Or.inl rfl⟩
  | ok response =>
    by_cases hstatus : response.status = okStatus
    · simp only [received, Except.bind, hstatus, if_true] at h
      refine (Response.object_eq_error h).imp_right fun hwordless => ?_
      exact ⟨hwordless.1, .unread hstatus hwordless.2⟩
    · simp only [received, Except.bind, hstatus, if_false, Except.error.injEq] at h
      exact Or.inl ⟨_, h.symm, Or.inl rfl⟩

theorem Step.readObject_of_wordless (step : Step) (label url : Text)
    {met : Except (Option Text) Response} (h : Wordless met) :
    step.readObject label url met = .error (.mishap .wordless) := by
  cases h with
  | unanswered => rfl
  | unread hstatus hbody => simp [readObject, read, received, Except.bind, Response.object, *]

theorem send_eq_once (label : Text) (r : Request) :
    send label r = Session.once r (received label r.url) := by
  funext world
  unfold send
  have hfirst : (Session.request r world : Ending Fault _).result =
      .ok (world.answer r.url).1 := rfl
  rw [Session.bind_ok hfirst]
  cases h : (world.answer r.url).1 with
  | ok response => simp [h, received]
  | error reason => cases reason <;> simp [h, received]

theorem sendFor_eq_once (step : Step) (label : Text) (r : Request) :
    sendFor step label r = Session.once r (step.read label r.url) := by
  unfold sendFor
  rw [send_eq_once]
  have h : ∀ response : Response,
      (if response.status = okStatus then Pure.pure response
        else Session.fail (.failure (.badStatus step response.status response.statusText)) :
        Session Fault Response) =
      Session.lift (if response.status = okStatus then .ok response
        else .error (.failure (.badStatus step response.status response.statusText))) := by
    intro response
    split <;> rfl
  simp only [h]
  exact Session.once_bind_lift ..

theorem call_eq_once (step : Step) (label : Text) (r : Request) :
    call step label r = Session.once r (step.readObject label r.url) := by
  unfold call
  rw [sendFor_eq_once]
  exact Session.once_bind_lift ..

namespace Message

def readMessage (ts url : Text) (met : Except (Option Text) Response) : Except Fault Members :=
  (Step.readingMessage.readObject "conversations.history" url met).bind fun answer =>
    (sole ts answer).mapError .failure

theorem find_eq_once (token channel ts : Text) (insecure : Bool) :
    find token channel ts insecure =
      Session.once (lookupRequest token channel ts insecure)
        (readMessage ts (lookupRequest token channel ts insecure).url) := by
  unfold find
  rw [call_eq_once]
  exact Session.once_bind_lift ..

def readDelivery (target : Target) (payload : Text) (met : Except (Option Text) Response) :
    Except Fault Members :=
  (received target.shownUrl target.url met).bind (outcomeAt target payload)

theorem deliver_of_target {token : Text} {domain : Option Text} {payload : Members}
    {target : Target} (h : Target.of token (payload.get? "ts").isSome domain = .ok target)
    (insecure : Bool) :
    deliver token domain payload insecure =
      Session.once (requestTo target (Json.object payload).compact insecure)
        (readDelivery target (Json.object payload).compact) := by
  unfold deliver
  simp only [h, mapError_ok, Session.lift_ok, Session.pure_bind, send_eq_once]
  exact Session.once_bind_lift ..

theorem deliver_of_no_target {token : Text} {domain : Option Text} {payload : Members}
    {failure : Failure} (h : Target.of token (payload.get? "ts").isSome domain = .error failure)
    (insecure : Bool) :
    deliver token domain payload insecure = Session.fail (.failure failure) := by
  unfold deliver
  simp only [h, mapError_error, Session.lift_error, Session.fail_bind]

end Message

namespace Channel

def readListing (url : Text) (met : Except (Option Text) Response) : Except Fault Page :=
  (Step.listingChannels.readObject "conversations.list" url met).bind fun answer =>
    (Page.of answer).mapError .failure

theorem readPage_eq_once (token : Text) (insecure : Bool) (cursor : Option Text) :
    readPage token insecure cursor =
      Session.once (pageRequest token cursor insecure)
        (readListing (pageRequest token cursor insecure).url) := by
  unfold readPage
  rw [call_eq_once]
  exact Session.once_bind_lift ..

def searchWithin (token name : Text) (insecure : Bool) : Nat → Option Text → Session Fault Text
  | 0, _ => Session.fail (.failure (.noChannel name))
  | pages + 1, cursor => do
    let page ← readPage token insecure cursor
    match page.find? name, page.next with
    | some id, _ => return id
    | none, none => Session.fail (.failure (.noChannel name))
    | none, some next => searchWithin token name insecure pages (some next)

theorem search_eq_searchWithin {token name : Text} {insecure : Bool} {pages : Nat}
    {cursor : Option Text} {world : World} (h : world.script.length < pages) :
    search token name insecure cursor world =
      searchWithin token name insecure pages cursor world := by
  induction pages generalizing cursor world with
  | zero => exact absurd h (Nat.not_lt_zero _)
  | succ pages ih =>
    rw [search_eq, searchWithin]
    cases hread : (readPage token insecure cursor world).result with
    | error fault => rw [Session.bind_error hread, Session.bind_error hread]
    | ok page =>
      have hless := advances_readPage token insecure cursor world page hread
      rw [Session.bind_ok hread, Session.bind_ok hread]
      cases page.find? name with
      | some id => rfl
      | none =>
        cases page.next with
        | none => rfl
        | some next =>
          have hrest : search token name insecure (some next)
              (readPage token insecure cursor world).world = _ := ih (by omega)
          simp only [hrest]

/-- What holds of the searches of so many pages, whatever they start from, holds of the search. -/
theorem find_eq_searchWithin (token name : Text) (insecure : Bool) (world : World) :
    find token name insecure world =
      searchWithin token name insecure (world.script.length + 1) none world :=
  search_eq_searchWithin (Nat.lt_succ_self _)

end Channel

end SlackCourier
