import SlackCourier.Credential
import SlackCourier.Exchange.Reply
import SlackCourier.Text.Query

/-!
# Finding a message

One message is read by its channel and its timestamp.  The history is asked for at most one message
at that time, and anything but exactly one is a failure.
-/

namespace SlackCourier.Message

def lookupQuery (channel ts : Text) : List (Text × Text) :=
  [("channel", channel), ("ts", ts), ("limit", "1"), ("inclusive", "true")]

def lookupRequest (token channel ts : Text) (insecure : Bool) : Request :=
  { method := .get
    url := Endpoint.history ++ "?" ++ Text.formEncode (lookupQuery channel ts)
    headers := jsonHeaders ++ [bearer token]
    body := none
    insecure := insecure }

def sole (ts : Text) (answer : Members) : Except Failure Members :=
  if answer.get? "ok" = some (.bool false) then .error (.historyRefused answer)
  else match (answer.get? "messages").bind Json.items? with
    | none => .error .noMessageList
    | some [] => .error (.noMessage ts)
    | some [.object message] => .ok message
    | some [_] => .error .messageNotObject
    | some (_ :: _ :: _) => .error (.severalMessages ts)

def find (token channel ts : Text) (insecure : Bool) : Session Fault Members := do
  let answer ← call .readingMessage "conversations.history"
    (lookupRequest token channel ts insecure)
  Session.lift ((sole ts answer).mapError .failure)

end SlackCourier.Message
