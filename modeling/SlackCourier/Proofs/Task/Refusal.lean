import SlackCourier.Proofs.Exchange.Refusal
import SlackCourier.Proofs.Message.Secrecy
import SlackCourier.Proofs.Task.Confirmation

/-!
# What becomes of a refusal

A run ends with a request that the Web API refuses, and tells of a failure.  For a message the
report repeats the word of the refusal.  An upload keeps the refusal as the cause of its own
failure, and the report leaves the word out.
-/

namespace SlackCourier

open Session

theorem Report.get?_error_of_failed (failure : Failure) (warnings : List Text) :
    (Report.mk (.failed failure) warnings).members.get? "error" =
      failure.error?.map .string := by
  have hnames : (("error" : Text) == "ok") = false ∧ (("error" : Text) == "msg") = false ∧
      (("error" : Text) == "code") = false ∧ (("error" : Text) == "warnings") = false := by decide
  simp [members, Outcome.kind?, Outcome.particulars, List.lookup_append, List.lookup_cons,
    Members.lookup_optional, hnames]

theorem Endpoint.IsWebhook.notMem_api {token : Text} {domain : Option Text} {url : Text}
    (h : IsWebhook token domain url) : url ∉ api := by
  intro hurl
  cases h with
  | incoming hkind =>
    have hnone : ∀ endpoint ∈ api, ¬ webhooks.units <+: endpoint.units := by decide
    exact hnone _ hurl (List.prefix_append _ _)
  | legacy hkind hdomain hname =>
    have hnone : ∀ endpoint ∈ api, Text.unit '=' ∉ endpoint.units := by decide
    apply hnone _ hurl
    rw [units_legacyWebhook]
    simp

theorem Target.isWebhook_of {token : Text} {edits : Bool} {domain : Option Text} {target : Target}
    (h : Target.of token edits domain = .ok target) (hprotocol : target.protocol ≠ .webApi) :
    Endpoint.IsWebhook token domain target.url := by
  unfold Target.of at h
  split at h
  · rename_i hkind
    rw [← Except.ok.inj h]
    exact .incoming hkind
  · rw [← Except.ok.inj h] at hprotocol
    exact absurd rfl hprotocol
  · rename_i hkind
    split at h
    · cases h
    · rename_i name hgiven
      obtain ⟨hdomain, hname⟩ := Text.given_eq_some_iff.1 hgiven
      rw [← Except.ok.inj h]
      exact .legacy hkind hdomain hname

namespace Message

theorem strict_sole (ts : Text) : Strict (sole ts) := by
  intro answer word h
  refine ⟨.historyRefused answer, ?_, h.errorWord?_eq⟩
  simp [sole, h.ok]

theorem heeds_find (token channel ts : Text) (insecure : Bool) :
    Heeds (find token channel ts insecure) := by
  rw [find_eq_once]
  exact heeds_of_strict _ _ _ (strict_sole ts)

theorem callsApi_lookupRequest (token channel ts : Text) (insecure : Bool) :
    (lookupRequest token channel ts insecure).CallsApi :=
  ⟨Or.inr ⟨rfl, Endpoint.history, by simp, _, rfl⟩, by simp [lookupRequest]⟩

/-- A message that is posted to the Web API calls it, and one that is posted to a webhook does
not. -/
theorem callsApi_requestTo_iff {token : Text} {edits : Bool} {domain : Option Text}
    {target : Target} (htarget : Target.of token edits domain = .ok target) (payload : Text)
    (insecure : Bool) :
    (requestTo target payload insecure).CallsApi ↔ target.protocol = .webApi := by
  constructor
  · intro hapi
    rcases hapi.address with hurl | ⟨hget, -⟩
    · apply Decidable.byContradiction
      intro hprotocol
      exact (Target.isWebhook_of htarget hprotocol).notMem_api hurl
    · cases hget
  · intro hprotocol
    have hurl : target.url ∈ Endpoint.api := by
      have hkind := Task.protocol_of_target htarget
      rw [hprotocol] at hkind
      rw [Target.of_webApi hkind.symm] at htarget
      rw [← Except.ok.inj htarget]
      cases edits <;> simp [Endpoint.api]
    exact ⟨Or.inl hurl, by simp [requestTo]⟩

end Message

namespace Upload

theorem Sends.callsApi {upload : Upload} {token : Text} {insecure : Bool} {world : World}
    {q : Request} (h : upload.Sends token insecure world q)
    (hbytes : ∀ content, q.body ≠ some (.bytes content)) : q.CallsApi := by
  refine ⟨?_, hbytes⟩
  cases h with
  | start length => exact Or.inr ⟨rfl, Endpoint.startUpload, by simp, _, rfl⟩
  | bytes => exact absurd rfl (hbytes _)
  | page cursor => exact Or.inr ⟨rfl, Endpoint.channels, by simp, _, rfl⟩
  | completion fileId channelId => exact Or.inl (by simp [completionRequest])

theorem strict_ticketOf : Strict ticketOf := by
  intro answer word h
  refine ⟨.uploadRefused (errorWord? answer), ?_, h.errorWord?_eq⟩
  simp [ticketOf, h.isOk_eq]

theorem strict_completed : Strict completed := by
  intro answer word h
  refine ⟨.completionRefused answer, ?_, h.errorWord?_eq⟩
  simp [completed, h.isOk_eq]

theorem heeds_steps (upload : Upload) (token channel : Text) (insecure : Bool) :
    Heeds (upload.steps token channel insecure) := by
  refine heeds_iff_stops.2 (upload.stops_steps (fun length => ?_) (fun ticket content => ?_) ?_
    fun fileId channelId => ?_) <;> rw [← heeds_iff_stops]
  · exact heeds_of_strict _ _ _ strict_ticketOf
  · have hbytes : ¬ (bytesRequest ticket content insecure).CallsApi :=
      fun hapi => hapi.bytesless content rfl
    exact heeds_once fun _ _ hapi _ => absurd hapi hbytes
  · exact Channel.heeds_find token channel insecure
  · exact heeds_of_strict _ _ _ strict_completed

theorem run_of_refused {upload : Upload} {token channel : Text} {insecure : Bool} {world : World}
    {before rest : List Request} {q : Request} {word : Text}
    (hcalls : (upload.run token channel insecure world).calls = before ++ q :: rest)
    (hapi : q.CallsApi) (hrefuses : world.Refuses before.length word) :
    rest = [] ∧ ∃ cause : Failure,
      (upload.run token channel insecure world).result = .error (.upload cause) ∧
        cause.error? = some word := by
  obtain ⟨hrest, cause, hcause, hword⟩ :=
    heeds_steps upload token channel insecure world before q rest word hcalls hapi hrefuses
  refine ⟨hrest, cause, ?_, hword⟩
  unfold run
  rw [mapError_apply, hcause]
  rfl

end Upload

namespace Task

/-- Every request of a task calls the Web API, but for the bytes of a file and a message that is
posted to a webhook. -/
theorem Sends.callsApi {task : Task} {world : World} {q : Request} (h : task.Sends world q)
    (hbytes : ∀ content, q.body ≠ some (.bytes content))
    (hpost : task.uploadFile = none → q.method = .post → classify task.token = .webApi) :
    q.CallsApi := by
  cases h with
  | upload hfile hsends => exact hsends.callsApi hbytes
  | lookup hfile => exact Message.callsApi_lookupRequest ..
  | message hfile htarget =>
    rw [Message.callsApi_requestTo_iff htarget, protocol_of_target htarget]
    exact hpost hfile rfl

theorem strict_sentOutcome (payload : Members) : Strict (sentOutcome payload) := by
  intro answer word h
  refine ⟨.messageRefused (errorWord? answer), ?_, h.errorWord?_eq⟩
  simp [sentOutcome, h.ok]

theorem heeds_sendMessage (task : Task) : Heeds task.sendMessage := by
  cases htarget : Target.of task.token (task.payload.get? "ts").isSome task.domain with
  | error failure =>
    rw [sendMessage_of_no_target htarget]
    exact heeds_fail _
  | ok target =>
    rw [sendMessage_of_target htarget]
    apply heeds_once
    rintro world word hapi ⟨answer, ⟨response, hanswers, hstatus, hobject⟩, hrefuses⟩
    have hprotocol := (Message.callsApi_requestTo_iff htarget _ _).1 hapi
    have hread : Message.readDelivery target (Json.object task.payload).compact
        (world.answer target.url).1 = .ok answer := by
      rw [World.answer_eq_ok_iff.2 hanswers]
      simp [Message.readDelivery, received, Except.bind, Message.outcomeAt, hstatus, hprotocol,
        hobject]
    show FailsWith (task.readSent target (world.answer target.url).1) word
    unfold readSent
    rw [hread]
    exact strict_sentOutcome task.payload answer word hrefuses

theorem heeds_preview (task : Task) (dryRun : Bool) : Heeds (task.preview dryRun) := by
  unfold preview
  split
  · exact heeds_fail _
  · cases task.messageId with
    | none => exact heeds_pure _
    | some messageId =>
      have hsteady : ∀ channel,
          Steady (Message.find task.token channel messageId task.insecure) := by
        intro channel
        rw [Message.find_eq_once]
        exact steady_once _ _
      refine (heeds_lift _).bind (steady_lift _) fun channel => ?_
      refine (Message.heeds_find _ _ _ _).bind (hsteady channel) fun message => ?_
      dsimp only
      split_ifs
      · exact heeds_pure _
      · exact heeds_pure _
      · exact heeds_pure _

theorem heeds_runMessage (task : Task) (dryRun : Bool) : Heeds (task.runMessage dryRun) := by
  refine (heeds_preview task dryRun).bind (steady_preview task dryRun) fun seen => ?_
  cases seen with
  | some outcome => exact heeds_pure _
  | none => exact heeds_sendMessage task

theorem runUpload_of_refused {task : Task} {upload : Upload} {dryRun : Bool} {world : World}
    {before rest : List Request} {q : Request} {word : Text}
    (hcalls : (task.runUpload upload dryRun world).calls = before ++ q :: rest)
    (hapi : q.CallsApi) (hrefuses : world.Refuses before.length word) :
    rest = [] ∧ ∃ cause : Failure,
      (task.runUpload upload dryRun world).result = .error (.upload cause) ∧
        cause.error? = some word := by
  cases hchannel : task.channelFor .uploading with
  | error failure =>
    rw [runUpload_of_no_channel hchannel] at hcalls
    simp at hcalls
  | ok channel =>
    rw [runUpload_of_channel hchannel] at hcalls ⊢
    cases dryRun with
    | true => simp at hcalls
    | false =>
      simp only [Bool.false_eq_true, if_false] at hcalls ⊢
      have hrun : (upload.run task.token channel task.insecure world).calls =
          before ++ q :: rest := by
        rw [← hcalls]
        cases hresult : (upload.run task.token channel task.insecure world).result with
        | ok answer => rw [calls_bind_of_ok hresult, pure_apply, Ending.calls_nil, List.append_nil]
        | error failure => rw [calls_bind_of_error hresult]
      obtain ⟨hrest, cause, hcause, hword⟩ := Upload.run_of_refused hrun hapi hrefuses
      exact ⟨hrest, cause, by rw [bind_error hcause], hword⟩

/-- A request that is refused is the last one of a run, which tells of a failure with the word of
the refusal.  The report of a message shows the word; that of an upload has it in the cause alone,
and shows none. -/
theorem refusal_told {task : Task} {dryRun : Bool} {world : World} {before rest : List Request}
    {q : Request} {word : Text} (hcalls : (task.run dryRun world).calls = before ++ q :: rest)
    (hapi : q.CallsApi) (hrefuses : world.Refuses before.length word) :
    rest = [] ∧ ∃ (report : Report) (cause : Failure),
      (task.run dryRun world).result = .ok report ∧ cause.error? = some word ∧
      report.outcome = .failed (if task.uploadFile.isSome then .upload cause else cause) ∧
      report.members.get? "ok" = some (.bool false) ∧
      report.members.get? "error" =
        if task.uploadFile.isSome then none else some (.string word) := by
  rw [calls_run] at hcalls
  rw [run_apply]
  cases hfile : task.uploadFile with
  | some upload =>
    rw [outcome_of_upload hfile] at hcalls ⊢
    obtain ⟨hrest, cause, hcause, hword⟩ := runUpload_of_refused hcalls hapi hrefuses
    rw [mapError_apply, hcause]
    refine ⟨hrest, _, cause, rfl, hword, rfl, rfl, ?_⟩
    exact Report.get?_error_of_failed (.upload cause) task.warnings
  | none =>
    rw [outcome_of_message hfile] at hcalls ⊢
    obtain ⟨hrest, cause, hcause, hword⟩ :=
      heeds_runMessage task dryRun world before q rest word hcalls hapi hrefuses
    rw [hcause]
    refine ⟨hrest, _, cause, rfl, hword, rfl, rfl, ?_⟩
    have herror := Report.get?_error_of_failed cause task.warnings
    rw [hword] at herror
    exact herror

/-- Surroundings with a file, and one answer to come, which refuses. -/
def refusing (word : Text) : World :=
  { answering [("ok", .bool false), ("error", .string word)] with
    tree := ⟨[(["a.txt"], .file [104, 105])]⟩ }

def fileRecord : Members :=
  [("token", .string "xoxb-1"), ("channel", .string "general"),
    ("uploadFile", .object [("path", .string "a.txt")])]

def fileUpload : Upload :=
  { path := "a.txt", filename := none, altText := none, snippetType := none
    initialComment := none, threadTs := none, title := none }

def fileTask : Task :=
  { plainMessage with
    msg := none, channel := some "general", prependHash := none, uploadFile := some fileUpload }

theorem refuses_refusing : (refusing "invalid_auth").Refuses 0 "invalid_auth" := by
  let answer : Members := [("ok", .bool false), ("error", .string "invalid_auth")]
  have hobject : (⟨okStatus, "OK", .text (Json.object answer).compact⟩ : Response).object =
      .ok answer :=
    Response.object_eq_ok_iff.2 ⟨_, answer, rfl, by decide +kernel, by decide +kernel⟩
  exact ⟨answer, ⟨_, ⟨[], rfl⟩, rfl, hobject⟩, ⟨by decide, by decide⟩⟩

theorem calls_fileTask : ∃ last : Request, last.CallsApi ∧
    (fileTask.run false (refusing "invalid_auth")).calls = [] ++ [last] := by
  have hcalls : (fileTask.run false (refusing "invalid_auth")).calls =
      [] ++ [fileUpload.startRequest "xoxb-1" 2 false] := by decide +kernel
  have hsends : fileTask.Sends (refusing "invalid_auth")
      (fileUpload.startRequest "xoxb-1" 2 false) :=
    mem_calls_run (by rw [hcalls]; exact List.mem_concat_self)
  refine ⟨_, hsends.callsApi ?_ ?_, hcalls⟩
  · simp [Upload.startRequest]
  · intro hfile
    cases hfile

/-- The same refusal of a message and of an upload: the word is shown for the one alone. -/
theorem refusal_told_of_invalidAuth :
    (∃ (report : Report) (cause : Failure),
      (plainMessage.run false (refusing "invalid_auth")).result = .ok report ∧
      cause.error? = some "invalid_auth" ∧ report.outcome = .failed cause ∧
      report.members.get? "error" = some (.string "invalid_auth")) ∧
    ∃ (report : Report) (cause : Failure),
      (fileTask.run false (refusing "invalid_auth")).result = .ok report ∧
      cause.error? = some "invalid_auth" ∧ report.outcome = .failed (.upload cause) ∧
      report.members.get? "error" = none := by
  constructor
  · let target : Target := ⟨.webApi, Endpoint.postMessage, jsonHeaders ++ [bearer "xoxb-1"]⟩
    have hlast : (plainMessage.run false (refusing "invalid_auth")).calls =
        [] ++ [Message.requestTo target (Json.object plainMessage.payload).compact false] := by
      decide +kernel
    have htarget : Target.of "xoxb-1" false none = .ok target :=
      Target.of_webApi (by decide) false none
    have hapi := (Message.callsApi_requestTo_iff htarget
      (Json.object plainMessage.payload).compact false).2 rfl
    obtain ⟨-, report, cause, hreport, hcause, houtcome, -, herror⟩ :=
      refusal_told hlast hapi refuses_refusing
    exact ⟨report, cause, hreport, hcause, houtcome, herror⟩
  · obtain ⟨last, hapi, hlast⟩ := calls_fileTask
    obtain ⟨-, report, cause, hreport, hcause, houtcome, -, herror⟩ :=
      refusal_told hlast hapi refuses_refusing
    exact ⟨report, cause, hreport, hcause, houtcome, herror⟩

/-- The report of an upload does not repeat the word with which the Web API refused it. -/
theorem word_lost_in_upload :
    ¬ ∀ (record : Members) (task : Task) (dryRun : Bool) (world : World) (before : List Request)
      (last : Request) (word : Text), ofMembers record = .accepted task →
      (task.run dryRun world).calls = before ++ [last] → last.CallsApi →
      world.Refuses before.length word →
      ∃ report, (task.run dryRun world).result = .ok report ∧
        report.members.get? "ok" = some (.bool false) ∧
        report.members.get? "error" = some (.string word) := by
  intro hclaim
  obtain ⟨last, hapi, hlast⟩ := calls_fileTask
  obtain ⟨report, hreport, -, herror⟩ :=
    hclaim fileRecord fileTask false _ [] last _ rfl hlast hapi refuses_refusing
  have hnone : (fileTask.run false (refusing "invalid_auth")).result.toOption.bind
      (fun report => report.members.get? "error") = none := by decide +kernel
  rw [hreport] at hnone
  exact absurd (herror.symm.trans hnone) (by simp)

end Task

end SlackCourier
