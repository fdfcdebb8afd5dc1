import SlackCourier.Proofs.Exchange.Stopping

/-!
# Refusals of the Web API

The Web API refuses a request with an object whose `ok` is false, and says why in a word.  A session
heeds refusals if it goes no further than a request that is refused, and fails with the word of it.
-/

namespace SlackCourier

/-- Whether a request calls the Web API: it goes to one of its addresses, with a query if it only
reads, and it does not carry the bytes of a file. -/
structure Request.CallsApi (q : Request) : Prop where
  address : q.url ∈ Endpoint.api ∨
    q.method = .get ∧ ∃ endpoint ∈ Endpoint.api, ∃ query : Text, q.url = endpoint ++ "?" ++ query
  bytesless : ∀ content, q.body ≠ some (.bytes content)

structure Refuses (answer : Members) (word : Text) : Prop where
  ok : answer.get? "ok" = some (.bool false)
  error : answer.get? "error" = some (.string word)

namespace Refuses

variable {answer : Members} {word : Text}

theorem isOk_eq (h : Refuses answer word) : isOk answer = false := by
  unfold isOk
  rw [h.ok]
  rfl

theorem errorWord?_eq (h : Refuses answer word) : errorWord? answer = some word := by
  unfold errorWord?
  rw [h.error]
  rfl

end Refuses

/-- Whether the request with a number is refused, with a word. -/
def World.Refuses (world : World) (n : Nat) (word : Text) : Prop :=
  ∃ answer, world.Grants n answer ∧ SlackCourier.Refuses answer word

/-- Whether a turn refuses whoever asks, with a word. -/
def Turn.Refuses (turn : Turn) (word : Text) : Prop :=
  ∃ response answer, turn.answer = .response response ∧ response.status = okStatus ∧
    response.object = .ok answer ∧ SlackCourier.Refuses answer word

theorem World.refuses_iff {world : World} {n : Nat} {word : Text} :
    world.Refuses n word ↔ ∃ turn, world.script[n]? = some turn ∧ turn.Refuses word := by
  constructor
  · rintro ⟨answer, ⟨response, ⟨removes, hturn⟩, hstatus, hobject⟩, hrefuses⟩
    exact ⟨_, hturn, response, answer, rfl, hstatus, hobject, hrefuses⟩
  · rintro ⟨turn, hturn, response, answer, hanswer, hstatus, hobject, hrefuses⟩
    exact ⟨answer, ⟨response, ⟨turn.removes, by rw [hturn, ← hanswer]⟩, hstatus, hobject⟩, hrefuses⟩

/-- Whether what was done ended in a failure that has a word of the other side. -/
def FailsWith {α : Type} (done : Except Fault α) (word : Text) : Prop :=
  ∃ failure : Failure, done = .error (.failure failure) ∧ failure.error? = some word

/-- Whether whoever judges an answer takes a refusal for a failure, with its word. -/
def Strict {α : Type} (judge : Members → Except Failure α) : Prop :=
  ∀ answer word, Refuses answer word → FailsWith ((judge answer).mapError .failure) word

namespace Session

variable {α β : Type}

/-- Whether a request to the Web API that is refused is the last one of a session, and the session
fails with the word of the refusal. -/
def Heeds (session : Session Fault α) : Prop :=
  ∀ (world : World) (before : List Request) (q : Request) (rest : List Request) (word : Text),
    (session world).calls = before ++ q :: rest → q.CallsApi →
    world.Refuses before.length word → rest = [] ∧ FailsWith (session world).result word

theorem heeds_iff_stops {session : Session Fault α} : Heeds session ↔
    Stops (fun word q turn => q.CallsApi ∧ turn.Refuses word)
      (fun word fault => ∃ failure : Failure, fault = .failure failure ∧
        failure.error? = some word) session := by
  constructor
  · rintro h world before q rest turn word hcalls hturn ⟨hapi, hrefuses⟩
    obtain ⟨hrest, failure, hfailure, hword⟩ := h world before q rest word hcalls hapi
      (World.refuses_iff.2 ⟨turn, hturn, hrefuses⟩)
    exact ⟨hrest, _, hfailure, failure, rfl, hword⟩
  · intro h world before q rest word hcalls hapi hrefuses
    obtain ⟨turn, hturn, hword⟩ := World.refuses_iff.1 hrefuses
    obtain ⟨hrest, fault, hfault, failure, rfl, herror⟩ :=
      h world before q rest turn word hcalls hturn ⟨hapi, hword⟩
    exact ⟨hrest, failure, hfault, herror⟩

theorem heeds_of_silent {session : Session Fault α} (h : ∀ world, (session world).calls = []) :
    Heeds session := heeds_iff_stops.2 (stops_of_silent h)

theorem heeds_pure (value : α) : Heeds (Pure.pure value) := heeds_of_silent fun _ => rfl

theorem heeds_fail (fault : Fault) : Heeds (fail fault : Session Fault α) :=
  heeds_of_silent fun _ => rfl

theorem heeds_lift (done : Except Fault α) : Heeds (lift done) :=
  heeds_of_silent fun _ => calls_lift done

theorem heeds_once {r : Request} {read : Except (Option Text) Response → Except Fault α}
    (h : ∀ (world : World) (word : Text), r.CallsApi → world.Refuses 0 word →
      FailsWith (read (world.answer r.url).1) word) : Heeds (once r read) := by
  intro world before q rest word hcalls hapi hrefuses
  have hone : [r] = before ++ q :: rest := hcalls
  rcases List.singleton_eq_append_iff.1 hone with ⟨rfl, hsame⟩ | ⟨-, hnone⟩
  · obtain ⟨rfl, hrest⟩ := List.cons.inj hsame
    exact ⟨hrest, h world word hapi hrefuses⟩
  · cases hnone

theorem heeds_of_strict (step : Step) (label : Text) (r : Request)
    {judge : Members → Except Failure α} (hstrict : Strict judge) :
    Heeds (once r fun met => (step.readObject label r.url met).bind fun answer =>
      (judge answer).mapError .failure) := by
  apply heeds_once
  rintro world word - ⟨answer, hgrants, hrefuses⟩
  rw [(World.Later.refl world).readObject_eq_ok_iff.2 hgrants]
  exact hstrict answer word hrefuses

theorem Heeds.bind {first : Session Fault α} {next : α → Session Fault β} (hfirst : Heeds first)
    (hsteady : Steady first) (hnext : ∀ value, Heeds (next value)) : Heeds (first >>= next) :=
  heeds_iff_stops.2 <| (heeds_iff_stops.1 hfirst).bind hsteady fun value =>
    heeds_iff_stops.1 (hnext value)

end Session

open Session

namespace Channel

theorem Page.strict_of : Strict Page.of := by
  intro answer word h
  refine ⟨.channelsRefused (errorWord? answer), ?_, h.errorWord?_eq⟩
  simp [Page.of, h.isOk_eq]

theorem heeds_find (token name : Text) (insecure : Bool) : Heeds (find token name insecure) := by
  refine heeds_iff_stops.2 (stops_find name fun cursor => heeds_iff_stops.1 ?_)
  rw [readPage_eq_once]
  exact heeds_of_strict _ _ _ Page.strict_of

end Channel

end SlackCourier
