import SlackCourier.CommandLine
import SlackCourier.Proofs.Exchange.Once
import SlackCourier.Proofs.Text.Utf8

/-!
# The course of the command

The command looks at the file that it is given, once and before anything else.  The record in the
file is refused, or its task is run; then the command does what the task does, and its exit tells
how that went.
-/

namespace SlackCourier.CommandLine

open Session

/-- How the command ends when its task was run. -/
def exitOf : Except Mishap Report → Exit
  | .ok report => reported report
  | .error mishap => stopped (.crashed mishap)

theorem readText_apply {path : Text} {world : World} {text : Text}
    (h : world.tree.read world.directory path = .ok (Text.encodeUtf8 text)) :
    readText path world = ⟨.ok text.mended, [.look path], world⟩ := by
  unfold readText
  have hlook : (look path (fun tree directory => tree.read directory path) world :
      Ending Stop _).result = .ok (.ok (Text.encodeUtf8 text)) := by
    rw [← h]
    rfl
  rw [bind_ok hlook, ← Text.decodeUtf8_encodeUtf8]
  rfl

section

variable {defaults : Task.Defaults} {args : List Text} {path text : Text} {members : Members}
  {world : World}

theorem readTask_apply (hpath : path? args = some path)
    (hread : world.tree.read world.directory path = .ok (Text.encodeUtf8 text))
    (hparse : Json.parse text.mended = some (.object members)) :
    readTask defaults args world = ⟨taskOf defaults members, [.look path], world⟩ := by
  have htext := readText_apply hread
  have hresult : (readText path world).result = .ok text.mended := by rw [htext]
  unfold readTask
  simp only [hpath]
  rw [bind_ok hresult, htext]
  unfold membersOf
  simp only [hparse, lift_ok, pure_bind]
  cases taskOf defaults members <;> rfl

theorem run_of_refused (hpath : path? args = some path)
    (hread : world.tree.read world.directory path = .ok (Text.encodeUtf8 text))
    (hparse : Json.parse text.mended = some (.object members)) {refusal : Refusal}
    (h : (Task.ofMembers (defaults.fill members)).toRecord = .error refusal) :
    run defaults args world = ⟨.ok (stopped (.invalid refusal)), [.look path], world⟩ := by
  have htask : taskOf defaults members = .error (.invalid refusal) := by
    unfold taskOf
    rw [h, mapError_error]
  have hask : readTask defaults args world = ⟨.error (.invalid refusal), [.look path], world⟩ :=
    htask ▸ readTask_apply hpath hread hparse
  have hresult : (readTask defaults args world).result = .error (.invalid refusal) := by rw [hask]
  have hreport : report defaults args world = ⟨.error (.invalid refusal), [.look path], world⟩ := by
    unfold report
    rw [bind_error hresult, hask]
  unfold run
  rw [bind_attempt, hreport]
  rfl

/-- A task that was accepted is run in the surroundings of the command, after the look at the
file. -/
theorem run_of_accepted (hpath : path? args = some path)
    (hread : world.tree.read world.directory path = .ok (Text.encodeUtf8 text))
    (hparse : Json.parse text.mended = some (.object members)) {task : Task}
    (h : Task.ofMembers (defaults.fill members) = .accepted task) :
    let ran := task.run (args.contains dryRunFlag) world
    run defaults args world = ⟨.ok (exitOf ran.result), .look path :: ran.trace, ran.world⟩ := by
  intro ran
  have htask : taskOf defaults members = .ok task := by
    unfold taskOf
    rw [h]
    rfl
  have hask : readTask defaults args world = ⟨.ok task, [.look path], world⟩ :=
    htask ▸ readTask_apply hpath hread hparse
  have hresult : (readTask defaults args world).result = .ok task := by rw [hask]
  have hreport : report defaults args world =
      ⟨ran.result.mapError .crashed, .look path :: ran.trace, ran.world⟩ := by
    unfold report
    rw [bind_ok hresult, hask]
    rfl
  unfold run
  rw [bind_attempt, hreport]
  cases ran.result <;> simp [exitOf]

end

end SlackCourier.CommandLine
