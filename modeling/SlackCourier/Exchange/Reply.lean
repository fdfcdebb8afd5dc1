import SlackCourier.Exchange.Session
import SlackCourier.Failure
import SlackCourier.Json.Reader
import SlackCourier.Json.Reserved

/-!
# Sending a request and reading its reply

A request without a response fails, and the reason never shows the URL: a URL may hold a token.  A
reason without words is a mishap.  A reply of the Web API has a JSON object as its body.
-/

namespace SlackCourier

/-- Sends a request.  The label names the other side in the failure and stands there for every
occurrence of the URL. -/
def send (label : Text) (r : Request) : Session Fault Response := do
  match ← Session.request r with
  | .ok response => return response
  | .error (some reason) =>
    Session.fail (.failure (.noResponse label (Text.replaceAll r.url label reason)))
  | .error none => Session.fail (.mishap .wordless)

/-- The members of the object that a text writes, without the reserved ones. -/
def objectOf (body : Text) : Except Failure Members :=
  match Json.parse body with
  | none => .error (.invalidJson body)
  | some (.object members) => .ok (Json.dropReservedMembers members)
  | some _ => .error (.notObject body)

/-- The object in a response.  A body that cannot be read for a reason without words is a mishap. -/
def Response.object (response : Response) : Except Fault Members :=
  match response.body with
  | .text body => (objectOf body).mapError .failure
  | .broken (some reason) | .crashed reason => .error (.failure (.unreadable reason))
  | .broken none => .error (.mishap .wordless)

def sendFor (step : Step) (label : Text) (r : Request) : Session Fault Response := do
  let response ← send label r
  if response.status = okStatus then return response
  else Session.fail (.failure (.badStatus step response.status response.statusText))

/-- Sends a request of a step and reads the object in its reply. -/
def call (step : Step) (label : Text) (r : Request) : Session Fault Members := do
  let response ← sendFor step label r
  Session.lift response.object

theorem advances_send (label : Text) (r : Request) : (send label r).Advances := by
  intro world value h
  have hfirst : (Session.request r world : Ending Fault _).result =
      .ok (world.answer r.url).1 := rfl
  unfold send at h ⊢
  rw [Session.bind_ok hfirst] at h ⊢
  cases hanswer : (world.answer r.url).1 with
  | error reason =>
    rw [hanswer] at h
    cases reason <;> cases h
  | ok response =>
    have hpos := List.length_pos_iff.2 (World.script_ne_nil_of_answer hanswer)
    simp only [Session.request_apply, Session.pure_apply, World.script_answer, List.length_tail]
    omega

theorem advances_sendFor (step : Step) (label : Text) (r : Request) :
    (sendFor step label r).Advances := by
  refine (advances_send label r).bind fun response world => ?_
  split <;> rfl

theorem advances_call (step : Step) (label : Text) (r : Request) : (call step label r).Advances :=
  (advances_sendFor step label r).bind_lift Response.object

def isOk (answer : Members) : Bool := answer.get? "ok" == some (.bool true)

end SlackCourier
