import SlackCourier.Proofs.Task.Conversation
import SlackCourier.Proofs.Task.DryRun

/-!
# Failures of the configuration

What another side answers is never a failure of the configuration, so such a failure rests on the
task alone.  The color, the channel and the credential of a new message are looked at before
anything is sent.  The credential of an edit is looked at only after the message has been read: a
token of the old kind without a domain is refused then, when one request has gone out.
-/

namespace SlackCourier

open Session

def Outcome.failure? : Outcome → Option Failure
  | failed failure => some failure
  | _ => none

/-- Whether a result is anything but a failure of the configuration. -/
def Unblamed {α : Type} (done : Except Fault α) : Prop :=
  ∀ failure, done = .error (.failure failure) → failure.code ≠ .config

namespace Unblamed

variable {α β : Type}

theorem ok (value : α) : Unblamed (.ok value : Except Fault α) := fun _ h => by cases h

theorem mishap (cause : Mishap) : Unblamed (.error (.mishap cause) : Except Fault α) :=
  fun _ h => by cases h

theorem failure {cause : Failure} (h : cause.code ≠ .config) :
    Unblamed (.error (.failure cause) : Except Fault α) := by
  intro failure hfailure
  rw [← Fault.failure.inj (Except.error.inj hfailure)]
  exact h

theorem bind {done : Except Fault α} {next : α → Except Fault β} (hdone : Unblamed done)
    (hnext : ∀ value, Unblamed (next value)) : Unblamed (done.bind next) := by
  cases done with
  | ok value => exact hnext value
  | error fault =>
    intro failure h
    exact hdone failure (congrArg Except.error (Except.error.inj h))

end Unblamed

theorem unblamed_received (label url : Text) (met : Except (Option Text) Response) :
    Unblamed (received label url met) := by
  unfold received
  split
  · exact .ok _
  · exact .failure (by simp [Failure.code])
  · exact .mishap _

theorem Response.unblamed_object (response : Response) : Unblamed response.object := by
  intro failure h
  rcases Response.object_eq_error h with ⟨cause, hcause, hcode⟩ | ⟨hmishap, -⟩
  · rw [Fault.failure.inj hcause]
    rcases hcode with hcode | hcode <;> simp [hcode]
  · cases hmishap

theorem Step.unblamed_readObject (step : Step) (label url : Text)
    (met : Except (Option Text) Response) : Unblamed (step.readObject label url met) := by
  refine Unblamed.bind (Unblamed.bind (unblamed_received label url met) fun response => ?_)
    Response.unblamed_object
  split_ifs
  · exact .ok _
  · exact .failure (by simp [Failure.code])

namespace Message

theorem unblamed_readMessage (ts url : Text) (met : Except (Option Text) Response) :
    Unblamed (readMessage ts url met) := by
  refine Unblamed.bind (Step.unblamed_readObject _ _ _ _) fun answer => ?_
  unfold sole
  split_ifs
  · exact .failure (by simp [Failure.code])
  · split
    · exact .failure (by simp [Failure.code])
    · exact .failure (by simp [Failure.code])
    · exact .ok _
    · exact .failure (by simp [Failure.code])
    · exact .failure (by simp [Failure.code])

theorem unblamed_outcomeAt (target : Target) (payload : Text) (response : Response) :
    Unblamed (outcomeAt target payload response) := by
  unfold outcomeAt
  split_ifs
  · cases target.protocol with
    | webApi => exact response.unblamed_object
    | webhook => exact .ok _
    | legacyWebhook => exact .ok _
  · unfold rejection
    cases response.body with
    | text body => exact .failure (by simp [Failure.code])
    | broken reason => exact .failure (by simp [Failure.code])
    | crashed reason => exact .mishap _

end Message

theorem Upload.code_of_run {upload : Upload} {token channel : Text} {insecure : Bool}
    {world : World} {failure : Failure}
    (h : (upload.run token channel insecure world).result = .error failure) :
    failure.code = .upload := by
  unfold run at h
  rw [mapError_apply] at h
  cases hsteps : (upload.steps token channel insecure world).result with
  | ok answer => simp [hsteps] at h
  | error fault =>
    simp only [hsteps, mapError_error, Except.error.injEq] at h
    rw [← h, Failure.code_ofUpload]

namespace Task

theorem kind?_of_outcome {task : Task} {dryRun : Bool} {world : World} {outcome : Outcome}
    (h : (task.outcome dryRun world).result = .ok outcome) : outcome.kind?.isSome := by
  cases hfile : task.uploadFile with
  | some upload =>
    rw [outcome_of_upload hfile, mapError_apply, mapError_eq_ok_iff] at h
    obtain ⟨channel, -, h⟩ := bind_eq_ok h
    cases dryRun with
    | true =>
      rw [← Except.ok.inj h]
      rfl
    | false =>
      obtain ⟨answer, -, h⟩ := bind_eq_ok h
      rw [← Except.ok.inj h]
      rfl
  | none =>
    rw [outcome_of_message hfile] at h
    obtain ⟨seen, hseen, h⟩ := bind_eq_ok h
    cases seen with
    | some found =>
      rw [← Except.ok.inj h]
      rcases kind?_of_preview hseen with hkind | hkind <;> simp [hkind]
    | none => rcases kind?_of_sendMessage h with hkind | hkind | hkind <;> simp [hkind]

theorem error_of_run {task : Task} {dryRun : Bool} {world : World} {report : Report}
    {failure : Failure} (h : (task.run dryRun world).result = .ok report)
    (hfailed : report.outcome = .failed failure) :
    (task.outcome dryRun world).result = .error (.failure failure) := by
  rcases outcome_of_run h with houtcome | ⟨cause, hcause, hsame⟩
  · rw [hfailed] at houtcome
    have hkind := kind?_of_outcome houtcome
    cases hkind
  · rw [hfailed, Outcome.failed.injEq] at hsame
    rw [hsame]
    exact hcause

theorem unblamed_readSent (task : Task) (target : Target) (met : Except (Option Text) Response) :
    Unblamed (task.readSent target met) := by
  refine Unblamed.bind (Unblamed.bind (unblamed_received _ _ _)
    (Message.unblamed_outcomeAt target _)) fun answer => ?_
  unfold sentOutcome
  split
  · exact .ok _
  · exact .ok _
  · exact .failure (by simp [Failure.code])

/-- Whether a task edits a message with a token of the old kind and names no workspace for it. -/
structure EditsWithoutDomain (task : Task) : Prop where
  edits : task.messageId.isSome
  token : classify task.token = .legacyWebhook
  domain : Text.given task.domain = none

/-- No message goes out under a token of the old kind without a domain, and that is the only thing
that keeps it from going out. -/
theorem target_eq_error {token : Text} {edits : Bool} {domain : Option Text} {failure : Failure}
    (h : Target.of token edits domain = .error failure) :
    failure = .domainRequired ∧ classify token = .legacyWebhook ∧ Text.given domain = none := by
  unfold Target.of at h
  cases hkind : classify token with
  | webhook => simp [hkind] at h
  | webApi => simp [hkind] at h
  | legacyWebhook =>
    cases hdomain : Text.given domain with
    | some name => simp [hkind, hdomain] at h
    | none =>
      simp only [hkind, hdomain, Except.error.injEq] at h
      exact ⟨h.symm, rfl, rfl⟩

theorem plan_ne_domainRequired {task : Task} {failure : Failure} (h : task.plan = .error failure) :
    failure ≠ .domainRequired := by
  unfold plan at h
  split_ifs at h
  · cases hid : task.messageId with
    | none => simp [hid] at h
    | some messageId =>
      unfold channelFor at h
      cases hchannel : Text.given task.channel with
      | some channel => simp [hid, hchannel, Except.map] at h
      | none =>
        simp only [hid, hchannel, Except.map, Except.error.injEq] at h
        simp [← h]
  · rw [← Except.error.inj h]
    simp

/-- The two ways in which a message can fail by its configuration: before anything is done, or, for
want of a domain, after the message that is edited has been read. -/
inductive Misconfigured (task : Task) (dryRun : Bool) (world : World) (failure : Failure)
    (ending : Ending Fault Outcome) : Prop
  | atOnce : ending.trace = [] → ending.world = world →
      (failure = .domainRequired → task.messageId = none) →
      Misconfigured task dryRun world failure ending
  | late {channel messageId : Text} : failure = .domainRequired → task.EditsWithoutDomain →
      dryRun = false → task.Edits channel messageId →
      ending.trace =
        [.request (Message.lookupRequest task.token channel messageId task.insecure)] →
      world.Later ending.world 1 → Misconfigured task dryRun world failure ending

/-- A sending that fails by the configuration has no target, and so nothing is sent. -/
theorem sendMessage_of_misconfigured {task : Task} {world : World} {failure : Failure}
    (h : (task.sendMessage world).result = .error (.failure failure))
    (hcode : failure.code = .config) :
    Target.of task.token (task.payload.get? "ts").isSome task.domain = .error failure ∧
      task.sendMessage world = ⟨.error (.failure failure), [], world⟩ := by
  cases htarget : Target.of task.token (task.payload.get? "ts").isSome task.domain with
  | ok target =>
    rw [sendMessage_of_target htarget] at h
    exact absurd hcode (unblamed_readSent task target _ failure h)
  | error refusal =>
    rw [sendMessage_of_no_target htarget] at h ⊢
    obtain rfl := Fault.failure.inj (Except.error.inj h)
    exact ⟨rfl, rfl⟩

theorem misconfigured_of_runMessage {task : Task} {dryRun : Bool} {world : World}
    {failure : Failure} (h : (task.runMessage dryRun world).result = .error (.failure failure))
    (hcode : failure.code = .config) :
    task.Misconfigured dryRun world failure (task.runMessage dryRun world) := by
  cases hplan : task.plan with
  | error refusal =>
    rw [runMessage_of_refused hplan] at h ⊢
    obtain rfl := Fault.failure.inj (Except.error.inj h)
    exact .atOnce rfl rfl fun hdomain => absurd hdomain (plan_ne_domainRequired hplan)
  | ok wanted =>
    cases wanted with
    | none =>
      have hid := messageId_of_plan hplan
      rw [runMessage_of_new hplan] at h ⊢
      cases dryRun with
      | true => cases h
      | false =>
        rw [if_neg Bool.false_ne_true] at h ⊢
        rw [(sendMessage_of_misconfigured h hcode).2]
        exact .atOnce rfl rfl fun _ => hid
    | some wanted =>
      obtain ⟨channel, messageId⟩ := wanted
      have hedits := edits_of_plan hplan
      cases hread : task.sought channel messageId world with
      | error fault =>
        rw [runMessage_of_unread hplan hread] at h
        rw [Except.error.inj h] at hread
        exact absurd hcode (Message.unblamed_readMessage _ _ _ failure hread)
      | ok message =>
        cases hverdict : task.verdict channel message dryRun with
        | some outcome =>
          rw [runMessage_of_decided hplan hread hverdict] at h
          cases h
        | none =>
          rw [runMessage_of_undecided hplan hread hverdict] at h ⊢
          obtain ⟨htarget, hsend⟩ := sendMessage_of_misconfigured h hcode
          obtain ⟨hdomain, htoken, hgiven⟩ := target_eq_error htarget
          rw [hsend]
          exact .late hdomain ⟨by simp [hedits.messageId_eq], htoken, hgiven⟩
            (verdict_eq_none_iff.1 hverdict).2 hedits rfl (world.later_answer _)

theorem misconfigured_of_runUpload {task : Task} {upload : Upload} {dryRun : Bool}
    {world : World} {failure : Failure}
    (h : (task.runUpload upload dryRun world).result = .error failure)
    (hcode : failure.code = .config) :
    failure = .channelRequired .uploading ∧ (task.runUpload upload dryRun world).trace = [] ∧
      (task.runUpload upload dryRun world).world = world := by
  cases hchannel : task.channelFor .uploading with
  | error refusal =>
    have hrefusal : refusal = .channelRequired .uploading := by
      unfold channelFor at hchannel
      cases hgiven : Text.given task.channel <;> simp [hgiven] at hchannel
      exact hchannel.symm
    rw [runUpload_of_no_channel hchannel] at h ⊢
    rw [← Except.error.inj h]
    exact ⟨hrefusal, rfl, rfl⟩
  | ok channel =>
    exfalso
    rw [runUpload_of_channel hchannel] at h
    cases dryRun with
    | true => cases h
    | false =>
      simp only [Bool.false_eq_true, if_false] at h
      cases hrun : (upload.run task.token channel task.insecure world).result with
      | ok answer =>
        rw [bind_ok hrun] at h
        cases h
      | error cause =>
        rw [bind_error hrun] at h
        rw [← Except.error.inj h, Upload.code_of_run hrun] at hcode
        cases hcode

/-- A task that fails by its configuration has done nothing, unless it edits a message with a token
of the old kind and names no domain: then the message has been read before the want of a domain is
told. -/
theorem configuration_before_traffic {task : Task} {dryRun : Bool} {world : World}
    {report : Report} {failure : Failure} (h : (task.run dryRun world).result = .ok report)
    (hfailed : report.outcome = .failed failure) (hcode : failure.code = .config) :
    (¬ task.EditsWithoutDomain ∨ failure ≠ .domainRequired →
      (task.run dryRun world).trace = [] ∧ (task.run dryRun world).world = world) ∧
    (task.EditsWithoutDomain → failure = .domainRequired → dryRun = false ∧
      ∃ channel messageId, task.Edits channel messageId ∧
        (task.run dryRun world).calls =
          [Message.lookupRequest task.token channel messageId task.insecure] ∧
        world.Later (task.run dryRun world).world 1) := by
  have hresult := error_of_run h hfailed
  rw [calls_run]
  rw [run_apply]
  dsimp only
  cases hfile : task.uploadFile with
  | some upload =>
    rw [outcome_of_upload hfile] at hresult ⊢
    rw [mapError_apply] at hresult ⊢
    have hcause : (task.runUpload upload dryRun world).result = .error failure := by
      cases hrun : (task.runUpload upload dryRun world).result with
      | ok outcome => simp [hrun] at hresult
      | error cause => simpa [hrun] using hresult
    obtain ⟨hchannel, htrace, hworld⟩ := misconfigured_of_runUpload hcause hcode
    refine ⟨fun _ => ⟨htrace, hworld⟩, fun _ hdomain => ?_⟩
    rw [hchannel] at hdomain
    cases hdomain
  | none =>
    rw [outcome_of_message hfile] at hresult ⊢
    cases misconfigured_of_runMessage hresult hcode with
    | atOnce htrace hworld hnew =>
      refine ⟨fun _ => ⟨htrace, hworld⟩, fun hedits hdomain => ?_⟩
      have hid := hedits.edits
      rw [hnew hdomain] at hid
      cases hid
    | late hdomain hedits hdry hwanted htrace hlater =>
      refine ⟨fun hnot => ?_, fun _ _ => ⟨hdry, _, _, hwanted, ?_, hlater⟩⟩
      · rcases hnot with hnot | hnot
        · exact absurd hedits hnot
        · exact absurd hdomain hnot
      · unfold Ending.calls
        rw [htrace]
        rfl

theorem exists_failure {task : Task} {dryRun : Bool} {world : World} {code : FailureCode}
    (h : ((task.run dryRun world).result.toOption.bind fun report =>
      report.outcome.failure?.map Failure.code) = some code) :
    ∃ report failure, (task.run dryRun world).result = .ok report ∧
      report.outcome = .failed failure ∧ failure.code = code := by
  obtain ⟨report, hreport, hcode⟩ := Option.bind_eq_some_iff.1 h
  obtain ⟨failure, hfailure, hcode⟩ := Option.map_eq_some_iff.1 hcode
  cases hresult : (task.run dryRun world).result with
  | error mishap => simp [hresult, Except.toOption] at hreport
  | ok told =>
    rw [hresult] at hreport
    rw [Option.some.inj hreport]
    refine ⟨report, failure, rfl, ?_, hcode⟩
    cases houtcome : report.outcome <;> simp_all [Outcome.failure?]

def editRecord : Members :=
  [("token", .string "legacytoken"), ("msg", .string "hi"), ("channel", .string "C1"),
    ("messageId", .string "1.5"), ("prependHash", .string "never")]

def oldEdit : Task := { plainEdit with token := "legacytoken" }

/-- With a domain that is missing and a color that is none, the color is told of, and nothing is
done. -/
theorem configuration_before_traffic_of_oldEdit :
    let task : Task := { oldEdit with color := "purple" }
    task.EditsWithoutDomain ∧
    ∃ report failure, (task.run false answeringEdit).result = .ok report ∧
      report.outcome = .failed failure ∧ failure.code = .config ∧ failure ≠ .domainRequired ∧
      (task.run false answeringEdit).trace = [] ∧
      (task.run false answeringEdit).world = answeringEdit := by
  intro task
  have hresult : (task.run false answeringEdit).result = .ok ⟨.failed .invalidColor, []⟩ := rfl
  have hother : Failure.invalidColor ≠ .domainRequired := by simp
  obtain ⟨htrace, hworld⟩ := (configuration_before_traffic hresult rfl rfl).1 (Or.inr hother)
  exact ⟨⟨rfl, by decide, rfl⟩, _, _, hresult, rfl, rfl, hother, htrace, hworld⟩

/-- An edit under a token of the old kind asks for the message before it fails for want of a
domain. -/
theorem configuration_failure_after_lookup :
    ¬ ∀ (record : Members) (task : Task) (dryRun : Bool) (world : World) (report : Report)
      (failure : Failure), ofMembers record = .accepted task →
      (task.run dryRun world).result = .ok report → report.outcome = .failed failure →
      failure.code = .config →
      (task.run dryRun world).calls = [] ∧
        (task.run dryRun world).world.script.length = world.script.length := by
  intro hclaim
  obtain ⟨report, failure, hresult, hfailed, hcode⟩ : ∃ report failure,
      (oldEdit.run false answeringEdit).result = .ok report ∧
        report.outcome = .failed failure ∧ failure.code = .config :=
    exists_failure (by decide +kernel)
  obtain ⟨hcalls, -⟩ :=
    hclaim editRecord oldEdit false answeringEdit report failure rfl hresult hfailed hcode
  have hone : (oldEdit.run false answeringEdit).calls.length = 1 := by decide +kernel
  rw [hcalls] at hone
  cases hone

end Task

end SlackCourier
