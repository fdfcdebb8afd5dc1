import SlackCourier.Proofs.Json.Members
import SlackCourier.Proofs.Task.Message

/-!
# When a message counts as sent

A run that ends with a sent message ends with the answer to its last request.  With a Web API token
that answer is an object, and its verdict decides what is told: a message if the verdict is true, a
webhook if there is none.
-/

namespace SlackCourier.Task

open Session

theorem kind?_of_preview {task : Task} {dryRun : Bool} {world : World} {outcome : Outcome}
    (h : (task.preview dryRun world).result = .ok (some outcome)) :
    outcome.kind? = some "unchanged" ∨ outcome.kind? = some "dry-run" := by
  rw [preview_eq] at h
  cases hplan : task.plan with
  | error failure =>
    rw [hplan] at h
    cases h
  | ok wanted =>
    rw [hplan] at h
    cases wanted with
    | none =>
      cases dryRun with
      | false => simp at h
      | true =>
        simp only [if_true, pure_apply, Except.ok.injEq, Option.some.injEq] at h
        rw [← h]
        exact Or.inr rfl
    | some wanted =>
      obtain ⟨message, -, hverdict⟩ := readPreview_eq_ok h
      exact kind?_of_verdict hverdict

theorem sent_of_run {task : Task} {dryRun : Bool} {world : World} {report : Report}
    (hfile : task.uploadFile = none) (h : (task.run dryRun world).result = .ok report)
    (hkind : report.outcome.kind? = some "message" ∨ report.outcome.kind? = some "webhook") :
    ∃ between target, world.Later between (task.preview dryRun world).calls.length ∧
      Target.of task.token (task.payload.get? "ts").isSome task.domain = .ok target ∧
      task.readSent target (between.answer target.url).1 = .ok report.outcome ∧
      (task.run dryRun world).calls = (task.preview dryRun world).calls ++
        [Message.requestTo target (Json.object task.payload).compact task.insecure] := by
  rcases outcome_of_run h with houtcome | ⟨failure, -, hfailed⟩
  · rw [outcome_of_message hfile] at houtcome
    obtain ⟨seen, hseen, hrest⟩ := bind_eq_ok houtcome
    cases seen with
    | some outcome =>
      have hsame : outcome = report.outcome := by simpa using hrest
      have hpreview := kind?_of_preview hseen
      rw [hsame] at hpreview
      rcases hkind with hkind | hkind <;> simp [hkind] at hpreview
    | none =>
      have hlater := steady_preview task dryRun world
      have hcalls : (task.run dryRun world).calls = (task.preview dryRun world).calls ++
          (task.sendMessage (task.preview dryRun world).world).calls := by
        rw [calls_run, outcome_of_message hfile]
        exact calls_bind_of_ok hseen
      cases htarget : Target.of task.token (task.payload.get? "ts").isSome task.domain with
      | error failure =>
        dsimp only at hrest
        rw [sendMessage_of_no_target htarget] at hrest
        cases hrest
      | ok target =>
        dsimp only at hrest
        rw [sendMessage_of_target htarget] at hrest hcalls
        exact ⟨_, target, hlater, rfl, hrest, hcalls⟩
  · rw [hfailed] at hkind
    simp [Outcome.kind?] at hkind

theorem protocol_of_target {token : Text} {edits : Bool} {domain : Option Text} {target : Target}
    (h : Target.of token edits domain = .ok target) : target.protocol = classify token := by
  unfold Target.of at h
  cases hkind : classify token with
  | webhook =>
    rw [hkind] at h
    rw [← Except.ok.inj h]
  | webApi =>
    rw [hkind] at h
    rw [← Except.ok.inj h]
  | legacyWebhook =>
    rw [hkind] at h
    cases hdomain : Text.given domain with
    | none => simp [hdomain] at h
    | some name =>
      simp only [hdomain, Except.ok.injEq] at h
      rw [← h]

theorem readSent_eq_ok {task : Task} {target : Target} {met : Except (Option Text) Response}
    {outcome : Outcome} (hprotocol : target.protocol = .webApi)
    (h : task.readSent target met = .ok outcome) :
    ∃ response answer, met = .ok response ∧ response.status = okStatus ∧
      response.object = .ok answer ∧ sentOutcome task.payload answer = .ok outcome := by
  obtain ⟨response, hmet, hstatus, ⟨-, answer, hobject, hsent⟩ | ⟨hother, -⟩⟩ :=
    readSent_eq_ok_iff.1 h
  · exact ⟨response, answer, hmet, hstatus, hobject, hsent⟩
  · exact absurd hprotocol hother

theorem verdict_of_sentOutcome {payload raw : Members} {outcome : Outcome}
    (h : sentOutcome payload (Json.dropReservedMembers raw) = .ok outcome) :
    (raw.get? "ok" = some (.bool true) ∧ outcome.kind? = some "message") ∨
      (raw.get? "ok" = none ∧ outcome.kind? = some "webhook") := by
  unfold sentOutcome at h
  rw [Members.get?_dropReservedMembers (by decide)] at h
  cases hok : raw.get? "ok" with
  | none =>
    rw [hok] at h
    rw [← Except.ok.inj h]
    exact Or.inr ⟨rfl, rfl⟩
  | some verdict =>
    rw [hok] at h
    simp only [Option.map_some] at h
    split at h
    · contradiction
    · rename_i htrue
      rw [Option.some.injEq, Json.dropReserved_eq_bool_iff] at htrue
      rw [htrue, ← Except.ok.inj h]
      exact Or.inl ⟨rfl, rfl⟩
    · cases h

/-- With a Web API token a run tells of a message only when its last request was answered with
status 200 and an object whose `ok` is true, and of a webhook only when that object has no `ok`. -/
theorem confirmation_of_report {task : Task} {dryRun : Bool} {world : World} {report : Report}
    (hfile : task.uploadFile = none) (htoken : classify task.token = .webApi)
    (h : (task.run dryRun world).result = .ok report)
    (hkind : report.outcome.kind? = some "message" ∨ report.outcome.kind? = some "webhook") :
    ∃ (before : List Request) (last : Request) (turn : Turn) (response : Response) (body : Text)
      (members : Members),
      (task.run dryRun world).calls = before ++ [last] ∧
      world.script[before.length]? = some turn ∧ turn.answer = .response response ∧
      response.status = okStatus ∧ response.body = .text body ∧
      Json.parse body = some (.object members) ∧
      ((members.get? "ok" = some (.bool true) ∧ report.outcome.kind? = some "message") ∨
        (members.get? "ok" = none ∧ report.outcome.kind? = some "webhook")) := by
  obtain ⟨between, target, hlater, htarget, hread, hcalls⟩ := sent_of_run hfile h hkind
  have hprotocol : target.protocol = .webApi := by rw [protocol_of_target htarget, htoken]
  obtain ⟨response, answer, hmet, hstatus, hobject, hsent⟩ := readSent_eq_ok hprotocol hread
  obtain ⟨turn, rest, hscript, hanswer⟩ := World.answer_eq_ok hmet
  have hturn : world.script[(task.preview dryRun world).calls.length]? = some turn := by
    rw [← hlater.head?_script, hscript, List.head?_cons]
  obtain ⟨body, members, hbody, hparse, rfl⟩ := Response.object_eq_ok_iff.1 hobject
  exact ⟨_, _, turn, response, body, members, hcalls, hturn, hanswer, hstatus, hbody, hparse,
    verdict_of_sentOutcome hsent⟩

def plainRecord : Members :=
  [("token", .string "xoxb-1"), ("msg", .string "hi"), ("prependHash", .string "never")]

def plainMessage : Task :=
  { token := "xoxb-1", domain := none, msg := some "hi", channel := none, threadId := none
    messageId := none, username := none, iconUrl := none, iconEmoji := none
    linkNames := Double.ofNat 1, parse := none, validateCerts := true
    color := Message.plainColor, attachments := none, blocks := none
    prependHash := some .never, uploadFile := none }

/-- Surroundings with one answer to come, which is an object with status 200. -/
def answering (answer : Members) : World :=
  { script := [⟨[], .response ⟨okStatus, "OK", .text (Json.object answer).compact⟩⟩]
    tree := default, directory := [] }

theorem exists_report {task : Task} {dryRun : Bool} {world : World} {kind : Text}
    (h : (task.run dryRun world).result.toOption.bind (fun report => report.outcome.kind?) =
      some kind) :
    ∃ report, (task.run dryRun world).result = .ok report ∧ report.outcome.kind? = some kind := by
  obtain ⟨report, hreport, hkind⟩ := Option.bind_eq_some_iff.1 h
  cases hresult : (task.run dryRun world).result with
  | error mishap => simp [hresult, Except.toOption] at hreport
  | ok told =>
    rw [hresult] at hreport
    rw [Option.some.inj hreport]
    exact ⟨report, rfl, hkind⟩

/-- A verdict that is true is told as a message. -/
theorem confirmation_of_plainMessage :
    ∃ report, (plainMessage.run false (answering [("ok", .bool true)])).result =
      .ok report ∧ ∃ (before : List Request) (last : Request) (turn : Turn) (response : Response)
        (body : Text) (members : Members),
        (plainMessage.run false (answering [("ok", .bool true)])).calls =
          before ++ [last] ∧
        (answering [("ok", .bool true)]).script[before.length]? = some turn ∧
        turn.answer = .response response ∧ response.status = okStatus ∧
        response.body = .text body ∧ Json.parse body = some (.object members) ∧
        ((members.get? "ok" = some (.bool true) ∧ report.outcome.kind? = some "message") ∨
          (members.get? "ok" = none ∧ report.outcome.kind? = some "webhook")) := by
  obtain ⟨report, hreport, hkind⟩ : ∃ report,
      (plainMessage.run false (answering [("ok", .bool true)])).result = .ok report ∧
        report.outcome.kind? = some "message" := exists_report (by decide +kernel)
  exact ⟨report, hreport, confirmation_of_report rfl (by decide) hreport (Or.inl hkind)⟩

/-- An object without a verdict is told as a webhook, though the token is one of the Web API. -/
theorem webhook_told_without_verdict :
    ¬ ∀ (record : Members) (task : Task) (dryRun : Bool) (world : World) (report : Report),
      ofMembers record = .accepted task → task.uploadFile = none →
      classify task.token = .webApi →
      (task.run dryRun world).result = .ok report →
      report.outcome.kind? = some "message" ∨ report.outcome.kind? = some "webhook" →
      ∃ (before : List Request) (last : Request) (turn : Turn) (response : Response) (body : Text)
        (members : Members),
        (task.run dryRun world).calls = before ++ [last] ∧
        world.script[before.length]? = some turn ∧ turn.answer = .response response ∧
        response.status = okStatus ∧ response.body = .text body ∧
        Json.parse body = some (.object members) ∧ members.get? "ok" = some (.bool true) ∧
        report.outcome.kind? = some "message" := by
  intro hclaim
  obtain ⟨report, hreport, hkind⟩ : ∃ report,
      (plainMessage.run false (answering [])).result = .ok report ∧
        report.outcome.kind? = some "webhook" := exists_report (by decide +kernel)
  obtain ⟨-, -, -, -, -, -, -, -, -, -, -, -, -, hmessage⟩ :=
    hclaim plainRecord _ _ _ report rfl rfl (by decide) hreport (Or.inr hkind)
  rw [hkind] at hmessage
  exact absurd hmessage (by decide)

end SlackCourier.Task
