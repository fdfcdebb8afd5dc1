import SlackCourier.Credential
import SlackCourier.Exchange.Reply

/-!
# Delivering a message

A payload is posted to the target of its token.  The Web API answers with an object, which is handed
on as it came; a webhook answers with nothing worth reading.
-/

namespace SlackCourier.Message

def webhookAnswer : Members := [("webhook", .string "ok")]

def requestTo (target : Target) (payload : Text) (insecure : Bool) : Request :=
  { method := .post, url := target.url, headers := target.headers,
    body := some (.text payload), insecure := insecure }

/-- Why a message was turned away: what the body says, else the words of the status, else the
number of the status.  Asking for the body may end in a mishap. -/
def rejection (response : Response) : Except Fault Text :=
  let words : Text :=
    if response.statusText = "" then "HTTP " ++ response.status.text else response.statusText
  match response.body with
  | .text body => .ok (if body = "" then words else body)
  | .broken _ => .ok words
  | .crashed reason => .error (.mishap (.bodyRefused reason))

def outcomeAt (target : Target) (payload : Text) (response : Response) : Except Fault Members :=
  if response.status = okStatus then
    match target.protocol with
    | .webApi => response.object
    | .webhook | .legacyWebhook => .ok webhookAnswer
  else
    match rejection response with
    | .ok reason =>
      .error (.failure (.notDelivered payload target.shownUrl reason response.status))
    | .error fault => .error fault

/-- Posts a payload with a token; one that names a timestamp edits the message in place. -/
def deliver (token : Text) (domain : Option Text) (payload : Members) (insecure : Bool) :
    Session Fault Members := do
  let target ← Session.lift
    ((Target.of token (payload.get? "ts").isSome domain).mapError .failure)
  let text := (Json.object payload).compact
  let response ← send target.shownUrl (requestTo target text insecure)
  Session.lift (outcomeAt target text response)

end SlackCourier.Message
