import SlackCourier.Proofs.Task.Conversation
import SlackCourier.Proofs.Task.DryRun

/-!
# When a run ends without a report

A run ends without a report when something goes wrong that nobody foresaw.  Where there are words
for whatever is missing, a response or its body, there is one way left for that: the message has
been posted, the answer turns it away, and its body cannot be asked for.  An upload foresees
everything.
-/

namespace SlackCourier

open Session

/-- Whether there are words wherever there is no response, or no body. -/
def World.Worded (world : World) : Prop := ∀ turn ∈ world.script, ¬ turn.answer.Wordless

theorem World.Worded.answer {world : World} (h : world.Worded) (url : Text) :
    ¬ Wordless (world.answer url).1 := by
  rw [World.wordless_answer_iff]
  rintro ⟨turn, hturn, hwordless⟩
  exact h turn (List.mem_of_head? hturn) hwordless

theorem World.Later.worded {before after : World} {n : Nat} (h : before.Later after n)
    (hworded : before.Worded) : after.Worded :=
  fun turn hturn => hworded turn (h.mem_script hturn)

/-- Whether a result is anything but a mishap. -/
def Foreseen {α : Type} (done : Except Fault α) : Prop := ∀ mishap, done ≠ .error (.mishap mishap)

namespace Foreseen

variable {α β : Type}

theorem ok (value : α) : Foreseen (.ok value : Except Fault α) := fun mishap h => by cases h

theorem failure (cause : Failure) : Foreseen (.error (.failure cause) : Except Fault α) :=
  fun mishap h => by cases h

theorem mapError (done : Except Failure α) : Foreseen (done.mapError .failure) := by
  cases done with
  | ok value => exact ok value
  | error cause => exact failure cause

theorem bind {done : Except Fault α} {next : α → Except Fault β} (hdone : Foreseen done)
    (hnext : ∀ value, Foreseen (next value)) : Foreseen (done.bind next) := by
  cases done with
  | ok value => exact hnext value
  | error fault =>
    intro mishap h
    exact hdone mishap (congrArg Except.error (Except.error.inj h))

end Foreseen

section

variable {label url : Text} {met : Except (Option Text) Response}

theorem Message.foreseen_readMessage (ts : Text) (h : ¬ Wordless met) :
    Foreseen (readMessage ts url met) :=
  fun _ hmishap => h (readMessage_eq_mishap_iff.1 hmishap).2

theorem Response.foreseen_object {response : Response} (hstatus : response.status = okStatus)
    (h : ¬ Wordless (.ok response)) : Foreseen response.object := by
  intro mishap hmishap
  rcases Response.object_eq_error hmishap with ⟨failure, hfailure, -⟩ | ⟨-, hbody⟩
  · cases hfailure
  · exact h (.unread hstatus hbody)

theorem not_wordless_of_status {response : Response} (h : response.status ≠ okStatus) :
    ¬ Wordless (.ok response) := by
  rintro (_ | ⟨hstatus, -⟩)
  exact h hstatus

end

/-- A delivery that is not without words meets a mishap exactly when the message is turned away with
a body that cannot be asked for. -/
theorem Message.outcomeAt_eq_mishap_iff {target : Target} {payload : Text} {response : Response}
    (h : ¬ Wordless (.ok response)) {mishap : Mishap} :
    outcomeAt target payload response = .error (.mishap mishap) ↔
      response.status ≠ okStatus ∧
        ∃ reason, response.body = .crashed reason ∧ mishap = .bodyRefused reason := by
  unfold outcomeAt
  by_cases hstatus : response.status = okStatus
  · have hforeseen := Response.foreseen_object hstatus h mishap
    cases htarget : target.protocol <;> simp [hstatus, hforeseen]
  · unfold rejection
    cases hbody : response.body <;> simp [hstatus, eq_comm]

namespace Task

theorem readSent_eq_mishap_iff {task : Task} {target : Target}
    {met : Except (Option Text) Response} (hmet : ¬ Wordless met) {mishap : Mishap} :
    task.readSent target met = .error (.mishap mishap) ↔ ∃ response, met = .ok response ∧
      response.status ≠ okStatus ∧
        ∃ reason, response.body = .crashed reason ∧ mishap = .bodyRefused reason := by
  unfold readSent Message.readDelivery
  cases met with
  | error reason =>
    cases reason with
    | none => exact absurd .unanswered hmet
    | some reason => simp [received, Except.bind]
  | ok response =>
    have houtcome := @Message.outcomeAt_eq_mishap_iff target (Json.object task.payload).compact
      response hmet mishap
    simp only [received, Except.bind, Except.ok.injEq, exists_eq_left', ← houtcome]
    cases hread : Message.outcomeAt target (Json.object task.payload).compact response with
    | error fault => simp
    | ok answer =>
      have hforeseen := Foreseen.mapError (sentOutcome task.payload answer) mishap
      simpa using hforeseen

theorem foreseen_preview (task : Task) (dryRun : Bool) {world : World} (h : world.Worded) :
    Foreseen (task.preview dryRun world).result := by
  rw [preview_eq]
  cases task.plan with
  | error failure => exact .failure failure
  | ok wanted =>
    cases wanted with
    | none => exact .ok _
    | some wanted =>
      obtain ⟨channel, messageId⟩ := wanted
      have hread : Foreseen (task.sought channel messageId world) :=
        Message.foreseen_readMessage messageId (h.answer _)
      rw [result_readPreview]
      exact hread.bind fun message => .ok _

theorem real_of_preview {task : Task} {dryRun : Bool} {world : World}
    (h : (task.preview dryRun world).result = .ok none) : dryRun = false := by
  rw [preview_eq] at h
  cases hplan : task.plan with
  | error failure =>
    rw [hplan] at h
    cases h
  | ok wanted =>
    rw [hplan] at h
    cases wanted with
    | none =>
      cases dryRun with
      | false => rfl
      | true => simp at h
    | some wanted =>
      obtain ⟨message, -, hverdict⟩ := readPreview_eq_ok h
      exact (verdict_eq_none_iff.1 hverdict).2

theorem sent_of_mishap {task : Task} {dryRun : Bool} {world : World} (hworded : world.Worded)
    {mishap : Mishap} (h : (task.runMessage dryRun world).result = .error (.mishap mishap)) :
    dryRun = false ∧ ∃ before target after, world.Later after before.length ∧
      (task.runMessage dryRun world).calls = before ++
        [Message.requestTo target (Json.object task.payload).compact task.insecure] ∧
      task.readSent target (after.answer target.url).1 = .error (.mishap mishap) := by
  unfold runMessage at h
  rcases bind_eq_error h with hpreview | ⟨seen, hseen, hsent⟩
  · exact absurd hpreview (foreseen_preview task dryRun hworded mishap)
  cases seen with
  | some outcome => cases hsent
  | none =>
    have hcalls : (task.runMessage dryRun world).calls = (task.preview dryRun world).calls ++
        (task.sendMessage (task.preview dryRun world).world).calls := calls_bind_of_ok hseen
    have hlater := steady_preview task dryRun world
    cases htarget : Target.of task.token (task.payload.get? "ts").isSome task.domain with
    | error failure =>
      dsimp only at hsent
      rw [sendMessage_of_no_target htarget] at hsent
      cases hsent
    | ok target =>
      dsimp only at hsent
      rw [sendMessage_of_target htarget] at hsent hcalls
      exact ⟨real_of_preview hseen, _, target, _, hlater, hcalls, hsent⟩

/-- Whether a run gets as far as the post of its message, and the answer turns it away with a body
that cannot be asked for. -/
structure Crashes (task : Task) (dryRun : Bool) (world : World) (reason : Text) : Prop where
  message : task.uploadFile = none
  real : dryRun = false
  posted : ∃ before post response, (task.run dryRun world).calls = before ++ [post] ∧
    post.method = .post ∧ world.Answers before.length response ∧ response.status ≠ okStatus ∧
    response.body = .crashed reason

theorem run_eq_error_iff {task : Task} {dryRun : Bool} {world : World} {mishap : Mishap} :
    (task.run dryRun world).result = .error mishap ↔
      (task.outcome dryRun world).result = .error (.mishap mishap) := by
  rw [run_apply]
  dsimp only
  unfold told
  split <;> simp_all

theorem crashes_of_error {task : Task} {dryRun : Bool} {world : World} (hworded : world.Worded)
    {mishap : Mishap} (h : (task.run dryRun world).result = .error mishap) :
    ∃ reason, task.Crashes dryRun world reason ∧ mishap = .bodyRefused reason := by
  rw [run_eq_error_iff] at h
  cases hfile : task.uploadFile with
  | some upload =>
    rw [outcome_of_upload hfile] at h
    exact absurd h (Foreseen.mapError _ mishap)
  | none =>
    rw [outcome_of_message hfile] at h
    obtain ⟨hreal, before, target, after, hlater, hcalls, hread⟩ := sent_of_mishap hworded h
    have hmet := (hlater.worded hworded).answer target.url
    obtain ⟨response, hresponse, hstatus, reason, hbody, hmishap⟩ :=
      (readSent_eq_mishap_iff hmet).1 hread
    have hanswers := hlater.answer_eq_ok_iff.1 hresponse
    rw [← outcome_of_message hfile, ← calls_run] at hcalls
    exact ⟨reason, ⟨hfile, hreal, before, _, response, hcalls, rfl, hanswers, hstatus, hbody⟩,
      hmishap⟩

theorem error_of_crashes {task : Task} {dryRun : Bool} {world : World} {reason : Text}
    (h : task.Crashes dryRun world reason) :
    (task.run dryRun world).result = .error (.bodyRefused reason) := by
  obtain ⟨before, post, response, hlast, hpost, hanswers, hstatus, hbody⟩ := h.posted
  rw [calls_run, outcome_of_message h.message] at hlast
  rw [run_eq_error_iff, outcome_of_message h.message]
  cases course_runMessage task dryRun world with
  | unsent _ hget =>
    have hgot := hget post (by rw [hlast]; exact List.mem_concat_self)
    rw [hpost] at hgot
    cases hgot
  | @sent earlier target after htarget _ hcalls hlater hread =>
    have hsame : earlier = before := by
      rw [hcalls] at hlast
      exact (List.append_inj' hlast rfl).1
    subst hsame
    have hmet : (after.answer target.url).1 = .ok response := hlater.answer_eq_ok_iff.2 hanswers
    rw [hread, hmet, readSent_eq_mishap_iff (not_wordless_of_status hstatus)]
    exact ⟨response, rfl, hstatus, reason, hbody, rfl⟩

theorem exists_report_of_no_mishap {task : Task} {dryRun : Bool} {world : World}
    (h : ∀ mishap, (task.run dryRun world).result ≠ .error mishap) :
    ∃ report, (task.run dryRun world).result = .ok report := by
  cases hresult : (task.run dryRun world).result with
  | ok report => exact ⟨report, rfl⟩
  | error mishap => exact absurd hresult (h mishap)

end Task

/-- Whether the members of a report tell of a success, or of a failure by its class and words. -/
def Report.Tells (report : Report) : Prop :=
  (report.outcome.isOk = true ∧ report.members.get? "ok" = some (.bool true)) ∨
    ∃ failure, report.outcome = .failed failure ∧
      report.members.get? "ok" = some (.bool false) ∧
      report.members.get? "code" = some (.string failure.code.name) ∧
      report.members.get? "msg" = some (.string failure.message)

theorem Report.tells (report : Report) : report.Tells := by
  obtain ⟨outcome, warnings⟩ := report
  cases outcome with
  | failed failure => exact Or.inr ⟨failure, rfl, rfl, rfl, rfl⟩
  | _ => exact Or.inl ⟨rfl, rfl⟩

namespace Task

/-- A run ends without a report in one situation: its message is turned away with a body that
cannot be asked for.  In every other one it ends with a report, and for an upload always. -/
theorem mishap_iff_crashes (task : Task) (dryRun : Bool) {world : World}
    (hworded : world.Worded) :
    (∀ mishap, (task.run dryRun world).result = .error mishap ↔
      ∃ reason, task.Crashes dryRun world reason ∧ mishap = .bodyRefused reason) ∧
    ((∀ reason, ¬ task.Crashes dryRun world reason) →
      ∃ report, (task.run dryRun world).result = .ok report ∧ report.Tells) ∧
    (task.uploadFile.isSome →
      ∃ report, (task.run dryRun world).result = .ok report ∧ report.Tells) := by
  have hmishap : ∀ mishap, (task.run dryRun world).result = .error mishap ↔
      ∃ reason, task.Crashes dryRun world reason ∧ mishap = .bodyRefused reason := by
    intro mishap
    constructor
    · exact crashes_of_error hworded
    · rintro ⟨reason, hcrashes, rfl⟩
      exact error_of_crashes hcrashes
  have hreport : (∀ reason, ¬ task.Crashes dryRun world reason) →
      ∃ report, (task.run dryRun world).result = .ok report ∧ report.Tells := by
    intro hnone
    have hsafe : ∀ mishap, (task.run dryRun world).result ≠ .error mishap := by
      intro mishap hresult
      obtain ⟨reason, hcrashes, -⟩ := (hmishap mishap).1 hresult
      exact hnone reason hcrashes
    obtain ⟨report, hresult⟩ := exists_report_of_no_mishap hsafe
    exact ⟨report, hresult, report.tells⟩
  refine ⟨hmishap, hreport, fun hfile => hreport ?_⟩
  intro reason hcrashes
  rw [hcrashes.message] at hfile
  cases hfile

/-- A body that cannot be asked for leaves the run of a plain message without a report. -/
theorem mishap_iff_crashes_of_refusingBody :
    refusingBody.Worded ∧ plainMessage.Crashes false refusingBody "boom" ∧
      (plainMessage.run false refusingBody).result = .error (.bodyRefused "boom") ∧
      ∃ report, (plainMessage.run true refusingBody).result = .ok report ∧ report.Tells := by
  have hworded : refusingBody.Worded := by simp [World.Worded, refusingBody, Answer.Wordless]
  have hcalls : ((plainMessage.run false refusingBody).calls.map fun q => q.method) = [.post] := by
    decide +kernel
  have hcrashes : plainMessage.Crashes false refusingBody "boom" := by
    obtain ⟨post, hpost⟩ : ∃ post, (plainMessage.run false refusingBody).calls = [post] := by
      rw [← List.length_eq_one_iff, ← List.length_map (fun q => q.method), hcalls]
      rfl
    rw [hpost] at hcalls
    exact ⟨rfl, rfl, [], post, _, hpost, List.singleton_inj.1 hcalls, ⟨[], rfl⟩, by decide, rfl⟩
  have hdry : ∀ reason, ¬ plainMessage.Crashes true refusingBody reason := by
    intro reason h
    have hreal := h.real
    cases hreal
  refine ⟨hworded, hcrashes, ?_, ?_⟩
  · exact ((mishap_iff_crashes plainMessage false hworded).1 _).2 ⟨"boom", hcrashes, rfl⟩
  · exact (mishap_iff_crashes plainMessage true hworded).2.1 hdry

end Task

end SlackCourier
