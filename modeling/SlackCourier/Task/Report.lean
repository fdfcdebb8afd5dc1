import SlackCourier.Failure

/-!
# Reports on tasks

What a task came to, for its caller: the kind of success with its particulars, or the failure, and
in either case the warnings raised on the way.
-/

namespace SlackCourier

/-- What a task came to. -/
inductive Outcome where
  /-- A message was sent: its timestamp and channel, the answer, and the text of its payload. -/
  | message (ts channel : Option Text) (answer : Members) (payload : Text)
  | webhook
  | unchanged (ts : Option Text) (channel : Text)
  | wouldPost
  | wouldEdit (ts : Option Text) (channel : Text)
  | wouldUpload
  | uploaded (answer : Members)
  | failed (failure : Failure)
  deriving Repr

/-- A report: the outcome and the warnings. -/
structure Report where
  outcome : Outcome
  warnings : List Text
  deriving Repr

namespace Outcome

def isOk : Outcome → Bool
  | failed _ => false
  | _ => true

/-- The word for a kind of success; a failure has none. -/
def kind? : Outcome → Option Text
  | message .. => some "message"
  | webhook => some "webhook"
  | unchanged .. => some "unchanged"
  | wouldPost | wouldEdit .. | wouldUpload => some "dry-run"
  | uploaded _ => some "upload"
  | failed _ => none

def changed : Outcome → Bool
  | unchanged .. | failed _ => false
  | _ => true

/-- The members of a report that tell one outcome from another of its kind. -/
def particulars : Outcome → Members
  | message ts channel answer payload =>
    Members.optional "ts" (ts.map .string) ++ Members.optional "channel" (channel.map .string) ++
      Members.single "api" (.object answer) ++ Members.single "payload" (.string payload)
  | webhook => [("msg", .string "OK")]
  | unchanged ts channel | wouldEdit ts channel =>
    Members.optional "ts" (ts.map .string) ++ Members.single "channel" (.string channel)
  | wouldPost => []
  | wouldUpload => [("msg", .string "File would be uploaded")]
  | uploaded answer =>
    [("msg", .string "File uploaded successfully"), ("uploadResponse", .object answer)]
  | failed failure =>
    Members.single "msg" (.string failure.message) ++
      Members.single "code" (.string failure.code.name) ++
      Members.optional "error" (failure.error?.map .string)

end Outcome

/-- The members of a report, in the order in which they are written. -/
def Report.members (report : Report) : Members :=
  Members.single "ok" (.bool report.outcome.isOk) ++
    (match report.outcome.kind? with
      | some kind => [("kind", .string kind), ("changed", .bool report.outcome.changed)]
      | none => []) ++
    report.outcome.particulars ++
    Members.single "warnings" (.list (report.warnings.map .string))

def Report.toJson (report : Report) : Json := .object report.members

end SlackCourier
