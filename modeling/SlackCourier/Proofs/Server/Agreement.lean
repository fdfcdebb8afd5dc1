import SlackCourier.Proofs.CommandLine.Course
import SlackCourier.Proofs.Json.Reading
import SlackCourier.Proofs.Server.Serving
import SlackCourier.Proofs.Server.Settings
import SlackCourier.Proofs.Task.Blind

/-!
# Server and command agree

A task without a file can be posted to the server or given to the command in a file.  Either way it
gets the same credential where it brings none, is accepted or refused alike, and comes to the same
requests and the same report, which the one tells with a status and the other with an exit code.
-/

namespace SlackCourier

open Session

theorem Task.uploadFile_of_accepted {defaults : Task.Defaults} {members : Members} {task : Task}
    (hfile : members.get? "uploadFile" = none)
    (h : ofMembers (defaults.fill members) = .accepted task) : task.uploadFile = none := by
  have hread := (ofMembers_eq_accepted_iff.1 h).uploadFile
  rw [Defaults.lookup_fill, hfile] at hread
  simpa [Check.optional, eq_comm] using hread

namespace Server

section

variable {settings : Settings} {r : Inbound} {text : Text} {members : Members}

/-- What the server answers when a task was run. -/
def answerOf : Except Mishap Report → Answer
  | .ok report => .reported report
  | .error mishap => .crashed mishap

theorem taskIn_of_object (settings : Settings) (hbody : r.body = some text)
    (hparse : Json.parse text.mended = some (.object members)) :
    taskIn settings r.body =
      (Task.ofMembers (settings.defaults.fill members)).toRecord.mapError .invalidTask := by
  have hmembers : bodyMembers (some text) = .ok members := by
    unfold bodyMembers
    simp [Json.dropByteOrderMarks_of_parse hparse, hparse, Json.members?]
  rw [hbody, taskIn, hmembers]
  rfl

theorem serve_of_denied (hroute : r.route = .task) (hadmitted : Admitted settings r)
    {denial : Denial} (htask : taskIn settings r.body = .error denial) (world : World) :
    serve settings r world = ⟨.ok ((Answer.denied denial).reply settings r), [], world⟩ := by
  have hdenied := taskFor_of_error (gate_eq_ok_iff.2 hadmitted) htask
  rw [serve_of_taskFor_error hroute (by rw [hdenied]; rfl), hdenied]
  rfl

theorem serve_of_message (hroute : r.route = .task) (hadmitted : Admitted settings r)
    {task : Task} (htask : taskIn settings r.body = .ok task) (hfile : task.uploadFile = none)
    (world : World) :
    let ran := task.run r.isDryRun world
    serve settings r world =
      ⟨.ok ((answerOf ran.result).reply settings r), ran.trace, ran.world⟩ := by
  intro ran
  have hconfine : confine settings task = Pure.pure task := by simp [confine, hfile]
  have hrun : runTask settings r world = ⟨.ok (answerOf ran.result), ran.trace, ran.world⟩ := by
    unfold runTask
    rw [taskFor_of_ok (gate_eq_ok_iff.2 hadmitted) htask, hconfine, bind_attempt]
    simp only [pure_apply, List.nil_append]
    rw [bind_attempt]
    cases ran.result <;> simp [ran, answerOf]
  rw [serve_of_runTask hroute (by rw [hrun]), hrun]

end

/-- How what the server answers goes together with how the command ends, for a record that was
checked and a run of its task. -/
inductive Agree (mode : Mode) (asked : Checked Task) (ran : Task → Ending Mishap Report)
    (served : Ending Empty Reply) (ended : Ending Empty Exit) : Prop
  /-- Both refuse the record with the same messages by field, and send nothing. -/
  | refused {refusal : Refusal} {reply : Reply} : asked.toRecord = .error refusal →
      served.calls = [] → ended.calls = [] →
      served.result = .ok reply → reply.status = 400 →
      reply.content = .json (.object [("error", .string "Invalid task"),
        ("details", refusal.fieldsJson)]) →
      ended.result = .ok ⟨1, [⟨.stderr, [.text "Invalid task:", .value refusal.fieldsJson]⟩]⟩ →
      Agree mode asked ran served ended
  /-- Both send what the task sends, and tell its report. -/
  | reported {task : Task} {report : Report} {reply : Reply} {code : Nat} :
      asked = .accepted task → (ran task).result = .ok report →
      served.calls = (ran task).calls → ended.calls = (ran task).calls →
      served.world.script = ended.world.script →
      served.result = .ok reply → reply.content = .json report.toJson →
      ended.result = .ok ⟨code, [⟨.stdout, [.text report.toJson.indented]⟩]⟩ →
      (reply.status = 200 ↔ report.outcome.isOk = true) → (code = 0 ↔ report.outcome.isOk = true) →
      (∀ failure, report.outcome = .failed failure →
        reply.status = if failure.code = .config then 400 else 502) →
      Agree mode asked ran served ended
  /-- Both send what the task sends, and meet the same mishap. -/
  | crashed {task : Task} {mishap : Mishap} {reply : Reply} :
      asked = .accepted task → (ran task).result = .error mishap →
      served.calls = (ran task).calls → ended.calls = (ran task).calls →
      served.world.script = ended.world.script →
      served.result = .ok reply → reply.status = 500 →
      (mode ≠ .production → reply.content = .json (.object
        [("error", .string "Internal server error"), ("message", .string mishap.message)])) →
      ended.result = .ok ⟨1, [⟨.stderr, [.text "Task crashed:", .mishap mishap]⟩]⟩ →
      Agree mode asked ran served ended

theorem reportStatus_eq_okStatus_iff (report : Report) :
    reportStatus report = 200 ↔ report.outcome.isOk = true := by
  unfold reportStatus
  cases report.outcome with
  | failed failure => by_cases hcode : failure.code = .config <;> simp [hcode, Outcome.isOk]
  | _ => simp [Outcome.isOk]

/-- Posted to the server or given to the command in a file, a record without a file comes to the
same. -/
theorem server_agrees_with_command {texts : List (Text × Text)} {settings : Settings}
    {r : Inbound} {args : List Text} {path text : Text} {members : Members} {here there : World}
    (hsettings : Settings.ofTexts texts = .ok settings)
    (hparse : Json.parse text.mended = some (.object members))
    (hfile : members.get? "uploadFile" = none)
    (hroute : r.route = .task) (hadmitted : Admitted settings r) (hbody : r.body = some text)
    (hpath : CommandLine.path? args = some path)
    (hread : there.tree.read there.directory path = .ok (Text.encodeUtf8 text))
    (hdry : r.isDryRun = args.contains CommandLine.dryRunFlag)
    (hscript : here.script = there.script) :
    Agree settings.mode (Task.ofMembers ((Task.Defaults.ofTexts texts).fill members))
      (fun task => task.run r.isDryRun here) (serve settings r here)
      (CommandLine.run (Task.Defaults.ofTexts texts) args there) := by
  have hhead : r.isHead = false := by
    unfold Inbound.isHead
    rw [((Inbound.route_eq_task_iff r).1 hroute).1]
    decide
  have htask := taskIn_of_object settings hbody hparse
  rw [Settings.defaults_of_ofTexts hsettings] at htask
  cases hasked : Task.ofMembers ((Task.Defaults.ofTexts texts).fill members) with
  | refused fields =>
    rw [hasked] at htask
    have hserved := serve_of_denied hroute hadmitted htask here
    have hended := CommandLine.run_of_refused hpath hread hparse (congrArg Checked.toRecord hasked)
    rw [hserved, hended]
    exact .refused rfl rfl rfl rfl rfl (content_reply hhead) rfl
  | accepted task =>
    rw [hasked] at htask
    have hnone := Task.uploadFile_of_accepted hfile hasked
    have hserved := serve_of_message hroute hadmitted htask hnone here
    have hended := CommandLine.run_of_accepted hpath hread hparse hasked
    have hsame := Task.blind_run hnone r.isDryRun here there hscript
    rw [← hdry] at hended
    dsimp only at hserved hended
    have hcalls : (CommandLine.run (Task.Defaults.ofTexts texts) args there).calls =
        (task.run r.isDryRun here).calls := by
      rw [hended]
      unfold Ending.calls
      rw [hsame.trace]
      rfl
    have hleft : (serve settings r here).world.script =
        (CommandLine.run (Task.Defaults.ofTexts texts) args there).world.script := by
      rw [hserved, hended]
      exact hsame.script
    have hsent : (serve settings r here).calls = (task.run r.isDryRun here).calls := by
      rw [hserved]
      rfl
    have hreply : (serve settings r here).result =
        .ok ((answerOf (task.run r.isDryRun here).result).reply settings r) := by rw [hserved]
    have hexit : (CommandLine.run (Task.Defaults.ofTexts texts) args there).result =
        .ok (CommandLine.exitOf (task.run r.isDryRun here).result) := by rw [hended, hsame.result]
    cases hran : (task.run r.isDryRun here).result with
    | ok report =>
      rw [hran] at hreply hexit
      refine .reported rfl hran hsent hcalls hleft hreply (content_reply hhead) hexit
        (reportStatus_eq_okStatus_iff report) ?_ ?_
      · cases report.outcome.isOk <;> simp
      · intro failure hfailed
        simp only [Answer.reply, Answer.status, answerOf, reportStatus, hfailed]
    | error mishap =>
      rw [hran] at hreply hexit
      refine .crashed rfl hran hsent hcalls hleft hreply rfl (fun hmode => ?_) hexit
      rw [content_reply hhead]
      simp [answerOf, Answer.content, hmode]

namespace Sample

/-- A record that brings no token of its own. -/
def tokenless : Members := [("msg", .string "hi"), ("prependHash", .string "never")]

def environment : List (Text × Text) :=
  [("NODE_ENV", "test"), ("LOG_LEVEL", "silent"), ("SLACK_TOKEN", "xoxb-1"), ("API_KEY", key)]

def holding (content : Text.Bytes) : File.Tree :=
  ⟨[(["work"], .directory), (["work", "task.json"], .file content)]⟩

/-- Surroundings in which the record lies in a file, and one answer is to come. -/
def fileWorld : World :=
  { script := [turn [("ok", .bool true)]]
    tree := holding (Text.encodeUtf8 (Json.object tokenless).compact)
    directory := ["work"] }

theorem read_holding (content : Text.Bytes) :
    (holding content).read ["work"] "task.json" = .ok content := rfl

end Sample

/-- The record is posted with the token of the environment, either way. -/
theorem server_agrees_with_command_on_tokenless :
    let settings := Sample.settings (some "xoxb-1") none none
    let here : World := { Sample.fileWorld with tree := default }
    (serve settings (Sample.posting Sample.tokenless) here).calls.length = 1 ∧
    Agree settings.mode
      (Task.ofMembers ((Task.Defaults.ofTexts Sample.environment).fill Sample.tokenless))
      (fun task => task.run (Sample.posting Sample.tokenless).isDryRun here)
      (serve settings (Sample.posting Sample.tokenless) here)
      (CommandLine.run (Task.Defaults.ofTexts Sample.environment) ["task.json"]
        Sample.fileWorld) := by
  intro settings here
  have hsent : (serve settings (Sample.posting Sample.tokenless) here).calls.length = 1 := by
    decide +kernel
  have hsettings : Settings.ofTexts Sample.environment = .ok settings := rfl
  have hparse : Json.parse (Json.object Sample.tokenless).compact.mended =
      some (.object Sample.tokenless) := by decide +kernel
  have hdry : (Sample.posting Sample.tokenless).isDryRun =
      (["task.json"] : List Text).contains CommandLine.dryRunFlag := by decide +kernel
  exact ⟨hsent, server_agrees_with_command hsettings hparse (by decide) rfl
    (Sample.admitted_posting ..) rfl (by decide +kernel) (Sample.read_holding _) hdry rfl⟩

end Server

end SlackCourier
