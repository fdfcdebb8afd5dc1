import SlackCourier.Proofs.Exchange.Turns
import SlackCourier.Proofs.Task.Requests

/-!
# Requests at which a session stops

What a request meets may raise an alarm.  Then it is to be the last request of the session, and the
session is to fail as the alarm says.  This passes through two sessions in a row, so it is enough to
look at each reading of an answer.
-/

namespace SlackCourier

theorem World.answer_of_head? {world : World} {turn : Turn} (h : world.script.head? = some turn)
    (url : Text) : (world.answer url).1 = turn.answer.settle url := by
  obtain ⟨rest, hscript⟩ := List.head?_eq_some_iff.1 h
  simp [answer, hscript]

namespace Session

variable {ι α β : Type} {alarm : ι → Request → Turn → Prop} {told : ι → Fault → Prop}

/-- Whether a request that meets an alarm is the last one of a session, and the session fails as the
alarm says. -/
def Stops (alarm : ι → Request → Turn → Prop) (told : ι → Fault → Prop)
    (session : Session Fault α) : Prop :=
  ∀ (world : World) (before : List Request) (q : Request) (rest : List Request) (turn : Turn)
    (i : ι), (session world).calls = before ++ q :: rest →
    world.script[before.length]? = some turn → alarm i q turn →
    rest = [] ∧ ∃ fault, (session world).result = .error fault ∧ told i fault

theorem stops_of_silent {session : Session Fault α} (h : ∀ world, (session world).calls = []) :
    Stops alarm told session := by
  intro world before q rest turn i hcalls
  rw [h] at hcalls
  simp at hcalls

theorem stops_pure (value : α) : Stops alarm told (Pure.pure value) := stops_of_silent fun _ => rfl

theorem stops_fail (fault : Fault) : Stops alarm told (fail fault : Session Fault α) :=
  stops_of_silent fun _ => rfl

theorem stops_once {r : Request} {read : Except (Option Text) Response → Except Fault α}
    (h : ∀ i turn, alarm i r turn →
      ∃ fault, read (turn.answer.settle r.url) = .error fault ∧ told i fault) :
    Stops alarm told (once r read) := by
  intro world before q rest turn i hcalls hturn halarm
  have hone : [r] = before ++ q :: rest := hcalls
  rcases List.singleton_eq_append_iff.1 hone with ⟨rfl, hsame⟩ | ⟨-, hnone⟩
  · obtain ⟨rfl, hrest⟩ := List.cons.inj hsame
    rw [List.length_nil, ← List.head?_eq_getElem?] at hturn
    rw [once_apply, World.answer_of_head? hturn]
    exact ⟨hrest, h i turn halarm⟩
  · cases hnone

/-- Stopping passes through two sessions in a row.  An alarm that a request of the first met would
have ended both, and any other request is one of the second, under its number there. -/
theorem Stops.bind {first : Session Fault α} {next : α → Session Fault β}
    (hfirst : Stops alarm told first) (hsteady : Steady first)
    (hnext : ∀ value, Stops alarm told (next value)) : Stops alarm told (first >>= next) := by
  intro world before q rest turn i hcalls hturn halarm
  cases hresult : (first world).result with
  | error fault =>
    rw [calls_bind_of_error hresult] at hcalls
    obtain ⟨hrest, other, hother, htold⟩ :=
      hfirst world before q rest turn i hcalls hturn halarm
    have hsame : fault = other := Except.error.inj (hresult.symm.trans hother)
    rw [bind_error hresult]
    exact ⟨hrest, fault, rfl, hsame ▸ htold⟩
  | ok value =>
    have hlater : ∀ between, before = (first world).calls ++ between →
        (next value (first world).world).calls = between ++ q :: rest →
        rest = [] ∧ ∃ fault, (next value (first world).world).result = .error fault ∧
          told i fault := by
      intro between hbefore hbetween
      rw [hbefore, List.length_append, ← List.getElem?_drop, ← (hsteady world).script] at hturn
      exact hnext value _ between q rest turn i hbetween hturn halarm
    rw [calls_bind_of_ok hresult] at hcalls
    rw [bind_ok hresult]
    rcases List.append_eq_append_iff.1 hcalls with
      ⟨between, hbefore, hbetween⟩ | ⟨mine, hmine, hrest⟩
    · exact hlater between hbefore hbetween
    · cases mine with
      | nil =>
        rw [List.append_nil] at hmine
        exact hlater [] (by rw [hmine, List.append_nil]) hrest.symm
      | cons other more =>
        obtain ⟨rfl, -⟩ := List.cons.inj hrest
        obtain ⟨-, fault, hfault, -⟩ := hfirst world before q more turn i hmine hturn halarm
        rw [hresult] at hfault
        cases hfault

end Session

open Session

variable {ι : Type} {alarm : ι → Request → Turn → Prop} {told : ι → Fault → Prop}
  {token channel : Text} {insecure : Bool}

namespace Channel

theorem stops_find (name : Text)
    (hpage : ∀ cursor, Stops alarm told (readPage token insecure cursor)) :
    Stops alarm told (find token name insecure) := by
  have hwithin : ∀ pages cursor,
      Stops alarm told (searchWithin token name insecure pages cursor) := by
    intro pages
    induction pages with
    | zero => exact fun cursor => stops_fail _
    | succ pages ih =>
      intro cursor
      refine (hpage cursor).bind (steady_readPage _ _ _) fun page => ?_
      split
      · exact stops_pure _
      · exact stops_fail _
      · exact ih _
  intro world
  rw [find_eq_searchWithin]
  exact hwithin _ none world

end Channel

namespace Upload

theorem stops_steps (upload : Upload)
    (hstart : ∀ length, Stops alarm told
      (once (upload.startRequest token length insecure) fun met =>
        (Step.requestingUpload.readObject "files.getUploadURLExternal"
          (upload.startRequest token length insecure).url met).bind fun answer =>
            (ticketOf answer).mapError .failure))
    (hbytes : ∀ ticket content, Stops alarm told
      (once (bytesRequest ticket content insecure)
        (Step.sendingBytes.read "file upload URL" (bytesRequest ticket content insecure).url)))
    (hfind : Stops alarm told (Channel.find token channel insecure))
    (hcompletion : ∀ fileId channelId, Stops alarm told
      (once (upload.completionRequest token fileId channelId insecure) fun met =>
        (Step.completingUpload.readObject "files.completeUploadExternal"
          (upload.completionRequest token fileId channelId insecure).url met).bind fun answer =>
            (completed answer).mapError .failure)) :
    Stops alarm told (upload.steps token channel insecure) := by
  unfold steps
  simp only [call_eq_once, sendFor_eq_once]
  refine (stops_of_silent (calls_measure _)).bind (steady_measure _) fun length => ?_
  -- The answer to the first request is judged in a session of its own, so the two go together.
  rw [← Session.bind_assoc, once_bind_lift]
  refine (hstart length).bind (steady_once _ _) fun ticket => ?_
  refine (stops_of_silent (calls_content _)).bind (steady_content _) fun content => ?_
  refine (hbytes ticket content).bind (steady_once _ _) fun _ => ?_
  refine hfind.bind (Channel.steady_find _ _ _) fun channelId => ?_
  rw [once_bind_lift]
  exact hcompletion ticket.fileId channelId

end Upload

end SlackCourier
