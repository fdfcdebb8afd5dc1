import SlackCourier.Proofs.Task.Alike
import SlackCourier.Proofs.Task.Conversation

/-!
# Tokens do not show

A Web API token goes into the authorization of requests to Slack, and nowhere else.  So two runs
with two such tokens differ in nothing but that.
-/

namespace SlackCourier

open Session

/-- A request without the value of its authorization. -/
def Request.masked (q : Request) : Request :=
  { q with headers := q.headers.map fun (name, value) =>
      (name, if name = "Authorization" then "" else value) }

theorem alike_deliver {a b : Text} (ha : classify a = .webApi) (hb : classify b = .webApi)
    (domain : Option Text) (payload : Members) (insecure : Bool) :
    Alike Request.masked (Message.deliver a domain payload insecure)
      (Message.deliver b domain payload insecure) := by
  rw [Message.deliver_of_target (Target.of_webApi ha _ domain),
    Message.deliver_of_target (Target.of_webApi hb _ domain)]
  have hmasked : ∀ url content : Text,
      (Message.requestTo ⟨.webApi, url, jsonHeaders ++ [bearer a]⟩ content insecure).masked =
        (Message.requestTo ⟨.webApi, url, jsonHeaders ++ [bearer b]⟩ content insecure).masked := by
    intro url content
    simp [Request.masked, Message.requestTo, bearer]
  exact alike_once (hmasked _ _) rfl _

theorem hides_token {a b : Text} (ha : classify a = .webApi) (hb : classify b = .webApi)
    (insecure : Bool) : Hides Request.masked a b insecure insecure where
  start upload length := by simp [Request.masked, Upload.startRequest, bearer]
  bytes ticket content := rfl
  page cursor := by simp [Request.masked, Channel.pageRequest, bearer]
  completion upload fileId channelId := by
    simp [Request.masked, Upload.completionRequest, bearer]
  lookup channel ts := by simp [Request.masked, Message.lookupRequest, bearer]
  delivery domain payload := alike_deliver ha hb domain payload insecure

theorem headers_of_target {token : Text} {edits : Bool} {domain : Option Text} {target : Target}
    (h : Target.of token edits domain = .ok target) (htoken : classify token ≠ .webApi) :
    target.headers = jsonHeaders := by
  unfold Target.of at h
  cases hkind : classify token with
  | webApi => exact absurd hkind htoken
  | webhook =>
    rw [hkind] at h
    rw [← Except.ok.inj h]
  | legacyWebhook =>
    rw [hkind] at h
    cases hdomain : Text.given domain with
    | none => simp [hdomain] at h
    | some name =>
      simp only [hdomain, Except.ok.injEq] at h
      rw [← h]

theorem Task.Sends.authorized {task : Task} {world : World} {q : Request}
    (h : task.Sends world q) (hauth : q.headers.lookup ("Authorization" : Text) ≠ none) :
    q.url.startsWith "https://slack.com/api/" = true := by
  cases h with
  | upload _ hsends =>
    cases hsends with
    | start length => exact Endpoint.startsWith_api_query (by simp) _
    | bytes => exact absurd rfl hauth
    | page cursor => exact Endpoint.startsWith_api_query (by simp) _
    | completion fileId channelId =>
      exact Endpoint.startsWith_api (by simp [Upload.completionRequest])
  | lookup => exact Endpoint.startsWith_api_query (by simp) _
  | @message target _ htarget =>
    by_cases hkind : classify task.token = .webApi
    · rw [Target.of_webApi hkind] at htarget
      rw [← Except.ok.inj htarget]
      apply Endpoint.startsWith_api
      unfold Message.requestTo
      split_ifs <;> simp
    · have hheaders := headers_of_target htarget hkind
      simp only [Message.requestTo, hheaders] at hauth
      exact absurd rfl hauth

theorem Task.Sends.unauthorized {task : Task} {world : World} {q : Request}
    (h : task.Sends world q) {content : Text.Bytes} (hbody : q.body = some (.bytes content)) :
    q.headers.lookup ("Authorization" : Text) = none := by
  cases h with
  | upload _ hsends =>
    cases hsends with
    | start length => cases hbody
    | bytes => rfl
    | page cursor => cases hbody
    | completion fileId channelId => cases hbody
  | lookup => cases hbody
  | message => cases hbody

namespace Task

/-- Two Web API tokens make no difference to a run but in the authorization of its requests, and
only Slack sees that. -/
theorem token_noninterference {task : Task} {token : Text}
    (htask : classify task.token = .webApi) (htoken : classify token = .webApi) (dryRun : Bool)
    (world : World) :
    let first := task.run dryRun world
    let second := run { task with token := token } dryRun world
    first.calls.map Request.masked = second.calls.map Request.masked ∧
    first.result = second.result ∧ first.world = second.world ∧
    ∀ q ∈ first.calls ++ second.calls,
      (q.headers.lookup ("Authorization" : Text) ≠ none →
        q.url.startsWith "https://slack.com/api/" = true) ∧
      ∀ content, q.body = some (.bytes content) →
        q.headers.lookup ("Authorization" : Text) = none := by
  intro first second
  have hhides : Hides Request.masked task.token token task.insecure (!task.validateCerts) :=
    hides_token htask htoken task.insecure
  have hsame := alike_run hhides dryRun world
  refine ⟨hsame.calls, hsame.result, hsame.world, fun q hq => ?_⟩
  rcases List.mem_append.1 hq with hq | hq
  · have hsends := mem_calls_run hq
    exact ⟨hsends.authorized, fun content hbody => hsends.unauthorized hbody⟩
  · have hsends := mem_calls_run hq
    exact ⟨hsends.authorized, fun content hbody => hsends.unauthorized hbody⟩

/-- The requests of an edit do differ, and no more than in what is masked. -/
theorem token_noninterference_of_plainEdit :
    let other : Task := { plainEdit with token := "xoxp-2" }
    (plainEdit.run false answeringEdit).calls ≠ (other.run false answeringEdit).calls ∧
    (plainEdit.run false answeringEdit).calls.map Request.masked =
      (other.run false answeringEdit).calls.map Request.masked ∧
    (plainEdit.run false answeringEdit).result = (other.run false answeringEdit).result := by
  intro other
  have hdiffer : (plainEdit.run false answeringEdit).calls ≠
      (other.run false answeringEdit).calls := by decide +kernel
  obtain ⟨hcalls, hresult, -, -⟩ :=
    @token_noninterference plainEdit "xoxp-2" (by decide) (by decide) false
      answeringEdit
  exact ⟨hdiffer, hcalls, hresult⟩

end Task

end SlackCourier
