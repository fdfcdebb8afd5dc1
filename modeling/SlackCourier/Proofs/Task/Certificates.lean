import SlackCourier.Proofs.Task.Alike
import SlackCourier.Proofs.Task.Requests

/-!
# Certificates are checked for a whole run

A task says once whether certificates are checked, and each of its requests is marked accordingly.
The mark is all that comes of it: it is looked at by no answer and by no step.
-/

namespace SlackCourier

open Session

/-- A request with certificates checked or not, whatever it was sent with. -/
def Request.marked (insecure : Bool) (q : Request) : Request := { q with insecure := insecure }

@[simp] theorem Request.marked_eq_self_iff {insecure : Bool} {q : Request} :
    q.marked insecure = q ↔ q.insecure = insecure := by
  cases q
  simp [marked, eq_comm]

theorem alike_deliver_marked (mark x y : Bool) (token : Text) (domain : Option Text)
    (payload : Members) : Alike (Request.marked mark) (Message.deliver token domain payload x)
      (Message.deliver token domain payload y) := by
  cases htarget : Target.of token (payload.get? "ts").isSome domain with
  | error failure =>
    rw [Message.deliver_of_no_target htarget, Message.deliver_of_no_target htarget]
    exact .refl _
  | ok target =>
    have hmasked : (Message.requestTo target (Json.object payload).compact x).marked mark =
        (Message.requestTo target (Json.object payload).compact y).marked mark := rfl
    rw [Message.deliver_of_target htarget, Message.deliver_of_target htarget]
    exact alike_once hmasked rfl _

theorem hides_mark (mark x y : Bool) (token : Text) :
    Hides (Request.marked mark) token token x y where
  start _ _ := rfl
  bytes _ _ := rfl
  page _ := rfl
  completion _ _ _ := rfl
  lookup _ _ := rfl
  delivery domain payload := alike_deliver_marked mark x y token domain payload

theorem Task.Sends.insecure_eq {task : Task} {world : World} {q : Request}
    (h : task.Sends world q) : q.insecure = task.insecure := by
  cases h with
  | upload _ hsends => cases hsends <;> rfl
  | lookup => rfl
  | message => rfl

namespace Task

/-- Every request of a run skips the checking of certificates exactly when its task turns the
checking off.  Turning it on or off changes that mark of the requests, and nothing else of the
run. -/
theorem certificates_uniform (task : Task) (certs dryRun : Bool) (world : World) :
    let ending := task.run dryRun world
    let other := run { task with validateCerts := certs } dryRun world
    (∀ q ∈ ending.calls, q.insecure = true ↔ task.validateCerts = false) ∧
    other.calls = ending.calls.map (Request.marked (!certs)) ∧
    other.result = ending.result ∧ other.world = ending.world := by
  intro ending other
  have hsame : ending.Alike (Request.marked (!certs)) other :=
    alike_run (hides_mark (!certs) task.insecure (!certs) task.token) dryRun world
  have hmarked : other.calls.map (Request.marked (!certs)) = other.calls := by
    have hself : ∀ q ∈ other.calls, q.marked (!certs) = id q := by
      intro q hq
      rw [id_eq, Request.marked_eq_self_iff]
      exact (mem_calls_run hq).insecure_eq
    rw [List.map_congr_left hself, List.map_id]
  refine ⟨fun q hq => ?_, ?_, hsame.result.symm, hsame.world.symm⟩
  · rw [(mem_calls_run hq).insecure_eq, insecure, Bool.not_eq_true']
  · rw [← hmarked, hsame.calls]

end Task

end SlackCourier
