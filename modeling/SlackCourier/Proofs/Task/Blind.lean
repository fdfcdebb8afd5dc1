import SlackCourier.Proofs.Task.Message

/-!
# Sessions that look at no file

A session that only sends requests goes the same way wherever the same answers are to come.  A
message is such a session; an upload is not, for it reads its file.
-/

namespace SlackCourier

/-- Whether two endings tell the same, after the same was done, with the same answers left. -/
structure Ending.SameCourse {ε α : Type} (first second : Ending ε α) : Prop where
  result : first.result = second.result
  trace : first.trace = second.trace
  script : first.world.script = second.world.script

namespace Session

variable {ε ε' α β : Type}

/-- Whether a session goes by the answers to come alone. -/
def Blind (session : Session ε α) : Prop :=
  ∀ here there : World, here.script = there.script →
    (session here).SameCourse (session there)

theorem blind_pure (value : α) : Blind (Pure.pure value : Session ε α) :=
  fun _ _ hscript => ⟨rfl, rfl, hscript⟩

theorem blind_fail (error : ε) : Blind (fail error : Session ε α) :=
  fun _ _ hscript => ⟨rfl, rfl, hscript⟩

theorem blind_once (r : Request) (read : Except (Option Text) Response → Except ε α) :
    Blind (once r read) := by
  intro here there hscript
  have hmet : (here.answer r.url).1 = (there.answer r.url).1 ∧
      (here.answer r.url).2.script = (there.answer r.url).2.script := by
    unfold World.answer
    rw [hscript]
    cases there.script with
    | nil => exact ⟨rfl, hscript⟩
    | cons turn rest => exact ⟨rfl, rfl⟩
  exact ⟨congrArg read hmet.1, rfl, hmet.2⟩

theorem Blind.bind {first : Session ε α} {next : α → Session ε β} (hfirst : Blind first)
    (hnext : ∀ value, Blind (next value)) : Blind (first >>= next) := by
  intro here there hscript
  have hstart := hfirst here there hscript
  cases hresult : (first there).result with
  | error error =>
    have hhere : (first here).result = .error error := hstart.result.trans hresult
    rw [bind_error hhere, bind_error hresult]
    exact ⟨rfl, hstart.trace, hstart.script⟩
  | ok value =>
    have hhere : (first here).result = .ok value := hstart.result.trans hresult
    have hrest := hnext value _ _ hstart.script
    rw [bind_ok hhere, bind_ok hresult]
    refine ⟨hrest.result, ?_, hrest.script⟩
    rw [hstart.trace, hrest.trace]

theorem Blind.attempt {session : Session ε α} (h : Blind session) :
    Blind (session.attempt : Session ε' (Except ε α)) := by
  intro here there hscript
  have hsame := h here there hscript
  exact ⟨congrArg Except.ok hsame.result, hsame.trace, hsame.script⟩

end Session

namespace Task

open Session

theorem blind_preview (task : Task) (dryRun : Bool) : Blind (task.preview dryRun) := by
  rw [preview_eq]
  cases task.plan with
  | error failure => exact blind_fail _
  | ok wanted =>
    cases wanted with
    | none => exact blind_pure _
    | some wanted => exact blind_once _ _

theorem blind_sendMessage (task : Task) : Blind task.sendMessage := by
  cases htarget : Target.of task.token (task.payload.get? "ts").isSome task.domain with
  | error failure =>
    rw [sendMessage_of_no_target htarget]
    exact blind_fail _
  | ok target =>
    rw [sendMessage_of_target htarget]
    exact blind_once _ _

theorem blind_runMessage (task : Task) (dryRun : Bool) : Blind (task.runMessage dryRun) := by
  refine (blind_preview task dryRun).bind fun seen => ?_
  cases seen with
  | some outcome => exact blind_pure outcome
  | none => exact blind_sendMessage task

theorem blind_run {task : Task} (hfile : task.uploadFile = none) (dryRun : Bool) :
    Blind (task.run dryRun) := by
  unfold run
  rw [outcome_of_message hfile]
  refine (blind_runMessage task dryRun).attempt.bind fun outcome => ?_
  cases outcome with
  | ok outcome => exact blind_pure _
  | error fault =>
    cases fault with
    | failure failure => exact blind_pure _
    | mishap mishap => exact blind_fail _

end Task

end SlackCourier
