import SlackCourier.Proofs.Task.Confirmation
import SlackCourier.Proofs.Task.Message

/-!
# Dry runs

A dry run and the real run of the same task in the same surroundings part at one place only: where
something would be written.  Up to there they do the same, so whatever ends a dry run earlier ends
the real run too; and a dry run that gets there stops, while the real run goes on to write.
-/

namespace SlackCourier.Task

open Session

/-- Whether requests read one message at most, and do nothing else. -/
def Looks (task : Task) (calls : List Request) : Prop :=
  calls = [] ∨ ∃ channel messageId,
    calls = [Message.lookupRequest task.token channel messageId task.insecure]

/-- How a dry run can stand to the real run: they are the same and the dry one does not tell of
writing, or it tells of writing and the real one goes on. -/
inductive Anticipates (task : Task) (dry real : Ending Fault Outcome) : Prop
  | same : task.Looks dry.calls → real = dry →
      (∀ outcome, dry.result = .ok outcome → outcome.kind? ≠ some ("dry-run" : Text)) →
      Anticipates task dry real
  | stops {outcome : Outcome} : task.Looks dry.calls → dry.result = .ok outcome →
      outcome.kind? = some ("dry-run" : Text) → outcome.changed = true →
      dry.calls <+: real.calls →
      (∀ written, real.result = .ok written → written.kind? = some ("message" : Text) ∨
        written.kind? = some ("webhook" : Text) ∨ written.kind? = some ("upload" : Text)) →
      Anticipates task dry real

theorem kind?_of_sendMessage {task : Task} {world : World} {outcome : Outcome}
    (h : (task.sendMessage world).result = .ok outcome) :
    outcome.kind? = some ("message" : Text) ∨ outcome.kind? = some ("webhook" : Text) ∨
      outcome.kind? = some ("upload" : Text) := by
  cases htarget : Target.of task.token (task.payload.get? "ts").isSome task.domain with
  | error failure =>
    rw [sendMessage_of_no_target htarget] at h
    cases h
  | ok target =>
    rw [sendMessage_of_target htarget] at h
    rcases kind?_of_readSent h with hkind | hkind
    · exact Or.inl hkind
    · exact Or.inr (Or.inl hkind)

theorem anticipates_runUpload (task : Task) (upload : Upload) (world : World) :
    task.Anticipates ((task.runUpload upload true).mapError .failure world)
      ((task.runUpload upload false).mapError .failure world) := by
  cases hchannel : task.channelFor .uploading with
  | error failure =>
    rw [runUpload_of_no_channel hchannel, runUpload_of_no_channel hchannel]
    exact .same (Or.inl rfl) rfl fun outcome h => by cases h
  | ok channel =>
    rw [runUpload_of_channel hchannel, runUpload_of_channel hchannel]
    refine .stops (Or.inl rfl) rfl rfl rfl List.nil_prefix fun written h => ?_
    rw [mapError_apply, mapError_eq_ok_iff] at h
    obtain ⟨answer, -, h⟩ := bind_eq_ok h
    rw [← Except.ok.inj h]
    exact Or.inr (Or.inr rfl)

theorem anticipates_runMessage (task : Task) (world : World) :
    task.Anticipates (task.runMessage true world) (task.runMessage false world) := by
  cases hplan : task.plan with
  | error failure =>
    rw [runMessage_of_refused hplan, runMessage_of_refused hplan]
    exact .same (Or.inl rfl) rfl fun outcome h => by cases h
  | ok wanted =>
    cases wanted with
    | none =>
      rw [runMessage_of_new hplan, runMessage_of_new hplan]
      exact .stops (Or.inl rfl) rfl rfl rfl List.nil_prefix fun written h => kind?_of_sendMessage h
    | some wanted =>
      obtain ⟨channel, messageId⟩ := wanted
      cases hread : task.sought channel messageId world with
      | error fault =>
        rw [runMessage_of_unread hplan hread, runMessage_of_unread hplan hread]
        exact .same (Or.inr ⟨channel, messageId, rfl⟩) rfl fun outcome h => by cases h
      | ok message =>
        cases hchanges : task.changes message with
        | false =>
          rw [runMessage_of_decided hplan hread (verdict_of_unchanged hchanges channel true),
            runMessage_of_decided hplan hread (verdict_of_unchanged hchanges channel false)]
          refine .same (Or.inr ⟨channel, messageId, rfl⟩) rfl fun outcome h => ?_
          rw [← Except.ok.inj h]
          simp [Outcome.kind?]
        | true =>
          rw [runMessage_of_decided hplan hread (verdict_of_changed hchanges channel),
            runMessage_of_undecided hplan hread (verdict_eq_none_iff.2 ⟨hchanges, rfl⟩)]
          exact .stops (Or.inr ⟨channel, messageId, rfl⟩) rfl rfl rfl ⟨_, rfl⟩
            fun written h => kind?_of_sendMessage h

theorem anticipates_outcome (task : Task) (world : World) :
    task.Anticipates (task.outcome true world) (task.outcome false world) := by
  cases hfile : task.uploadFile with
  | none =>
    rw [outcome_of_message hfile, outcome_of_message hfile]
    exact anticipates_runMessage task world
  | some upload =>
    rw [outcome_of_upload hfile, outcome_of_upload hfile]
    exact anticipates_runUpload task upload world

theorem Anticipates.looks {task : Task} {dry real : Ending Fault Outcome}
    (h : task.Anticipates dry real) : task.Looks dry.calls := by
  cases h with
  | same hlooks => exact hlooks
  | stops hlooks => exact hlooks

/-- A dry run does what the real run does up to the first thing that would be written. -/
theorem dryRun_simulates (task : Task) (world : World) :
    (task.run true world).calls <+: (task.run false world).calls ∧
    (task.run true world).calls.length ≤ 1 ∧
    (∀ q ∈ (task.run true world).calls, q.method = .get) ∧
    (∀ dry real, (task.run true world).result = .ok dry →
      (task.run false world).result = .ok real → dry.warnings = real.warnings) ∧
    ((∀ dry, (task.run true world).result = .ok dry → dry.outcome.kind? ≠ some ("dry-run" : Text)) →
      task.run false world = task.run true world) ∧
    ∀ dry, (task.run true world).result = .ok dry → dry.outcome.kind? = some ("dry-run" : Text) →
      dry.outcome.changed = true ∧ ∀ real, (task.run false world).result = .ok real →
        real.outcome.kind? = some ("message" : Text) ∨
          real.outcome.kind? = some ("webhook" : Text) ∨
          real.outcome.kind? = some ("upload" : Text) ∨
          ∃ failure, real.outcome = .failed failure := by
  have hanticipates := anticipates_outcome task world
  have hlooks := hanticipates.looks
  refine ⟨?_, ?_, ?_, ?_, ?_, ?_⟩
  · rw [calls_run, calls_run]
    cases hanticipates with
    | same _ hsame => exact hsame ▸ List.prefix_rfl
    | stops _ _ _ _ hprefix => exact hprefix
  · rw [calls_run]
    rcases hlooks with hcalls | ⟨_, _, hcalls⟩ <;> simp [hcalls]
  · intro q hq
    rw [calls_run] at hq
    rcases hlooks with hcalls | ⟨_, _, hcalls⟩
    · simp [hcalls] at hq
    · rw [hcalls, List.mem_singleton] at hq
      rw [hq]
      rfl
  · intro dry real hdry hreal
    rw [warnings_of_run hdry, warnings_of_run hreal]
  · intro hkind
    cases hanticipates with
    | same _ hsame => rw [run_apply, run_apply, hsame]
    | stops _ hresult hdryKind =>
      rw [run_apply, hresult] at hkind
      exact absurd hdryKind (hkind _ rfl)
  · intro dry hdry hkind
    rcases outcome_of_run hdry with houtcome | ⟨failure, -, hfailed⟩
    · cases hanticipates with
      | same _ _ hnot => exact absurd hkind (hnot _ houtcome)
      | stops _ hresult _ hchanged _ hwritten =>
        rw [hresult, Except.ok.injEq] at houtcome
        refine ⟨houtcome ▸ hchanged, fun real hreal => ?_⟩
        rcases outcome_of_run hreal with hsent | ⟨failure, -, hfailed⟩
        · rcases hwritten _ hsent with hmessage | hwebhook | hupload
          · exact Or.inl hmessage
          · exact Or.inr (Or.inl hwebhook)
          · exact Or.inr (Or.inr (Or.inl hupload))
        · exact Or.inr (Or.inr (Or.inr ⟨failure, hfailed⟩))
    · rw [hfailed] at hkind
      cases hkind

/-- Surroundings in which a message is turned away by an answer whose body cannot be asked for. -/
def refusingBody : World :=
  { script := [⟨[], .response ⟨Double.ofNat 500, "OK", .crashed "boom"⟩⟩]
    tree := default, directory := [] }

/-- After a dry run that tells of writing, the real run may end without a report. -/
theorem no_report_after_dryRun :
    ¬ ∀ (record : Members) (task : Task) (world : World) (dry : Report),
      ofMembers record = .accepted task → (task.run true world).result = .ok dry →
      dry.outcome.kind? = some ("dry-run" : Text) →
      ∃ real, (task.run false world).result = .ok real ∧
        (real.outcome.kind? = some ("message" : Text) ∨
          real.outcome.kind? = some ("webhook" : Text) ∨
          real.outcome.kind? = some ("upload" : Text) ∨
          ∃ failure, real.outcome = .failed failure) := by
  intro hclaim
  obtain ⟨dry, hdry, hkind⟩ : ∃ report,
      (plainMessage.run true refusingBody).result = .ok report ∧
        report.outcome.kind? = some ("dry-run" : Text) := exists_report (by decide +kernel)
  obtain ⟨real, hreal, -⟩ := hclaim plainRecord plainMessage refusingBody dry rfl hdry hkind
  have hnone : (plainMessage.run false refusingBody).result.toOption.isNone = true := by
    decide +kernel
  rw [hreal] at hnone
  cases hnone

end SlackCourier.Task
