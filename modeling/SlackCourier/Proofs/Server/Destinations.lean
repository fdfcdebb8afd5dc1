import SlackCourier.Proofs.Server.Serving
import SlackCourier.Proofs.Task.Acceptance

/-!
# Where the server's credential goes

A task that brings no token runs with the one that was set up for it, and where its requests go
follows from the kind of that token.  The domain is filled in apart from the token: a token of the
old kind goes to the workspace that the body names, if it names one.
-/

namespace SlackCourier

/-- Whether a request goes to Slack, or with a token of the old kind to a workspace. -/
inductive Request.Confined (token : Text) (domain : Option Text) (q : Request) : Prop
  | api : q.url.startsWith "https://slack.com/api/" → Confined token domain q
  | webhook : q.url.startsWith "https://hooks.slack.com/services/" → Confined token domain q
  | workspace {name : Text} : classify token = .legacyWebhook → domain = some name →
      q.url.startsWith ("https://" ++ name ++ "/") → Confined token domain q

/-- Whether a request brings no credential of its own and goes where an answer to an upload told it
to go. -/
def Request.FollowsAnswer (q : Request) (world : World) : Prop :=
  q.headers.lookup ("Authorization" : Text) = none ∧
    ∃ answer, world.Tells answer ∧ answer.get? "upload_url" = some (.string q.url)

/-- Whether a request has a token in its URL or in its authorization. -/
def Request.Carries (q : Request) (token : Text) : Prop :=
  token.units <:+: q.url.units ∨
    ∃ value, q.headers.lookup ("Authorization" : Text) = some value ∧ token.units <:+: value.units

namespace Endpoint

theorem startsWith_legacyWebhook (domain token : Text) :
    (legacyWebhook domain token).startsWith ("https://" ++ domain ++ "/") = true := by
  have hslash : ("/services/hooks/incoming-webhook?token=" : Text) =
      ("/" : Text) ++ "services/hooks/incoming-webhook?token=" := by decide
  unfold legacyWebhook
  rw [hslash]
  apply Text.startsWith_iff.2
  exact ⟨("services/hooks/incoming-webhook?token=" : Text) ++ token, by
    simp only [Text.append_assoc]⟩

end Endpoint

theorem confined_of_target {token : Text} {edits : Bool} {domain : Option Text} {target : Target}
    (h : Target.of token edits domain = .ok target) (payload : Text) (insecure : Bool) :
    (Message.requestTo target payload insecure).Confined token domain := by
  unfold Target.of at h
  cases hkind : classify token with
  | webhook =>
    simp only [hkind, Except.ok.injEq] at h
    rw [← h]
    exact .webhook (Text.startsWith_iff.2 ⟨token, rfl⟩)
  | webApi =>
    simp only [hkind, Except.ok.injEq] at h
    rw [← h]
    apply Request.Confined.api
    show (if edits then Endpoint.updateMessage else Endpoint.postMessage).startsWith _ = true
    cases edits <;> exact Endpoint.startsWith_api (by simp)
  | legacyWebhook =>
    rw [hkind] at h
    cases hdomain : Text.given domain with
    | none => simp [hdomain] at h
    | some name =>
      simp only [hdomain, Except.ok.injEq] at h
      rw [← h]
      exact .workspace hkind (Text.eq_of_given hdomain)
        (Endpoint.startsWith_legacyWebhook name token)

theorem Upload.Sends.destination {upload : Upload} {token : Text} {insecure : Bool}
    {world : World} {q : Request} (h : upload.Sends token insecure world q)
    (domain : Option Text) : q.Confined token domain ∨ q.FollowsAnswer world := by
  cases h with
  | start length => exact Or.inl (.api (Endpoint.startsWith_api_query (by simp) _))
  | bytes htells hticket _ _ => exact Or.inr ⟨rfl, _, htells, (ticketOf_eq_ok hticket).2.1⟩
  | page cursor => exact Or.inl (.api (Endpoint.startsWith_api_query (by simp) _))
  | completion fileId channelId =>
    exact Or.inl (.api (Endpoint.startsWith_api (by simp [completionRequest])))

/-- Every request of a task is confined by its token and its domain, or follows an answer. -/
theorem Task.Sends.destination {task : Task} {world : World} {q : Request}
    (h : task.Sends world q) : q.Confined task.token task.domain ∨ q.FollowsAnswer world := by
  cases h with
  | upload _ hsends => exact hsends.destination task.domain
  | lookup => exact Or.inl (.api (Endpoint.startsWith_api_query (by simp) _))
  | message _ htarget => exact Or.inl (confined_of_target htarget _ _)

namespace Server

/-- The domain of the task in a body: the one it brings, or else the one that is set up. -/
def domainFor (settings : Settings) (members : Members) : Option Text :=
  match members.get? "domain" with
  | some value => value.text?
  | none => settings.domain

/-- A task that brings no token runs with the one that is set up, and with its own domain if it
brings one. -/
theorem credential_of_taskIn {settings : Settings} {body : Option Text} {members : Members}
    {token : Text} {asked : Task} (htoken : settings.token = some token)
    (hbody : bodyMembers body = .ok members) (hown : members.get? "token" = none)
    (htask : taskIn settings body = .ok asked) :
    asked.token = token ∧ asked.domain = domainFor settings members := by
  have hrecord : (Task.ofMembers (settings.defaults.fill members)).toRecord = .ok asked := by
    unfold taskIn at htask
    rw [hbody] at htask
    exact mapError_eq_ok_iff.1 htask
  have hreads := Task.ofMembers_eq_accepted_iff.1 (Checked.toRecord_eq_ok_iff.1 hrecord)
  constructor
  · have hgiven := (Check.textOfAtLeast_eq_ok_iff.1 hreads.token).1
    rw [Task.Defaults.lookup_fill, hown] at hgiven
    simpa [Settings.defaults, htoken, eq_comm] using hgiven
  · have hgiven := hreads.domain
    rw [Task.Defaults.lookup_fill] at hgiven
    unfold domainFor
    cases hdomain : members.get? "domain" with
    | none =>
      cases hset : settings.domain with
      | none => simpa [Settings.defaults, hdomain, hset, Check.optional, eq_comm] using hgiven
      | some name =>
        simpa [Settings.defaults, hdomain, hset, Check.optional, Check.text, Check.present,
          Except.map, eq_comm] using hgiven
    | some value =>
      simp only [hdomain, Option.some_or, Check.optional_eq_ok_iff, reduceCtorEq, false_and,
        false_or] at hgiven
      obtain ⟨_, name, -, hname, hasked⟩ := hgiven
      rw [Check.text_eq_ok_iff, Option.some.injEq] at hname
      rw [hasked, hname]
      rfl

/-- Every request that goes out for a body without a token goes to Slack, or with a token of the old
kind to the workspace that the body names, or else to the one that is set up; the bytes of an upload
alone go where the answer says, and they go without the credential. -/
theorem credential_destinations {settings : Settings} {r : Inbound} {world : World}
    {token : Text} {members : Members} (htoken : settings.token = some token)
    (hbody : bodyMembers r.body = .ok members) (hown : members.get? "token" = none) :
    ∀ q ∈ (serve settings r world).calls,
      q.url.startsWith "https://slack.com/api/" ∨
      q.url.startsWith "https://hooks.slack.com/services/" ∨
      (classify token = .legacyWebhook ∧ ∃ name, domainFor settings members = some name ∧
        q.url.startsWith ("https://" ++ name ++ "/")) ∨
      (q.headers.lookup ("Authorization" : Text) = none ∧
        ∃ answer, world.Tells answer ∧ answer.get? "upload_url" = some (.string q.url)) := by
  intro q hq
  obtain ⟨-, -, asked, task, htask, hconfines, hsends⟩ := mem_calls_serve hq
  obtain ⟨hask, hdomain⟩ := credential_of_taskIn htoken hbody hown htask
  have hsame : task.token = asked.token ∧ task.domain = asked.domain := by
    cases hconfines <;> exact ⟨rfl, rfl⟩
  have hdestination := hsends.destination
  rw [hsame.1, hsame.2, hask, hdomain] at hdestination
  rcases hdestination with hconfined | hfollows
  · cases hconfined with
    | api h => exact Or.inl h
    | webhook h => exact Or.inr (Or.inl h)
    | workspace hkind hname h => exact Or.inr (Or.inr (Or.inl ⟨hkind, _, hname, h⟩))
  · exact Or.inr (Or.inr (Or.inr hfollows))

namespace Sample

def redirecting : Members :=
  [("msg", .string "hi"), ("domain", .string "evil.example"), ("prependHash", .string "never")]

def redirectingSettings : Settings := settings (some "legacytoken") (some "example.slack.com") none

/-- An upload whose bytes are to go to an address with the token in it. -/
def echoing : Members :=
  [("channel", .string "c"), ("uploadFile", .object [("path", .string "a")])]

def echoingSettings : Settings := settings (some "xoxb-1") none (some "/srv")

def echoingWorld : World :=
  { script := [turn [("ok", .bool true), ("upload_url", .string "https://files.example/xoxb-1"),
      ("file_id", .string "F")]]
    tree := ⟨[(["srv"], .directory), (["srv", "a"], .file [104, 105])]⟩
    directory := [] }

theorem bodyMembers_redirecting : bodyMembers (posting redirecting).body = .ok redirecting := rfl

theorem bodyMembers_echoing : bodyMembers (posting echoing).body = .ok echoing := rfl

end Sample

/-- A token of the old kind goes to the workspace that the body names. -/
theorem credential_destinations_redirecting :
    Sample.redirectingSettings.token = some ("legacytoken" : Text) ∧
    bodyMembers (Sample.posting Sample.redirecting).body = .ok Sample.redirecting ∧
    Members.get? Sample.redirecting "token" = none ∧
    ∀ q ∈ (serve Sample.redirectingSettings (Sample.posting Sample.redirecting) default).calls,
      q.url.startsWith "https://slack.com/api/" ∨
      q.url.startsWith "https://hooks.slack.com/services/" ∨
      (classify "legacytoken" = .legacyWebhook ∧
        ∃ name, domainFor Sample.redirectingSettings Sample.redirecting = some name ∧
          q.url.startsWith ("https://" ++ name ++ "/")) ∨
      (q.headers.lookup ("Authorization" : Text) = none ∧ ∃ answer,
        (default : World).Tells answer ∧ answer.get? "upload_url" = some (.string q.url)) :=
  ⟨rfl, Sample.bodyMembers_redirecting, by decide,
    credential_destinations rfl Sample.bodyMembers_redirecting (by decide)⟩

/-- Whether the credential of the server stays with Slack and with the workspace that is set up. -/
def KeepsCredential (settings : Settings) (r : Inbound) (world : World) : Prop :=
  ∀ token members, settings.token = some token → r.route = .task → Admitted settings r →
    bodyMembers r.body = .ok members → Members.get? members "token" = none →
      ∀ q ∈ (serve settings r world).calls, q.Carries token →
        q.url.startsWith "https://slack.com/api/" ∨
        q.url.startsWith "https://hooks.slack.com/services/" ∨
        ∃ name, settings.domain = some name ∧ q.url.startsWith ("https://" ++ name ++ "/")

/-- The credential leaves when the body names another workspace, and when the address for the bytes
of an upload has it. -/
theorem not_keepsCredential :
    ¬ KeepsCredential Sample.redirectingSettings (Sample.posting Sample.redirecting) default ∧
    ¬ KeepsCredential Sample.echoingSettings (Sample.posting Sample.echoing)
      Sample.echoingWorld := by
  constructor
  · intro hkeeps
    let q : Request := Message.requestTo
      ⟨.legacyWebhook, Endpoint.legacyWebhook "evil.example" "legacytoken", jsonHeaders⟩
      (Json.object [("text", .string "hi"), ("link_names", Json.ofInt 1)]).compact false
    have hsent : q ∈ (serve Sample.redirectingSettings (Sample.posting Sample.redirecting)
        default).calls := by decide +kernel
    have hcarries : q.Carries "legacytoken" := Or.inl ⟨_, [], List.append_nil _⟩
    rcases hkeeps _ _ rfl rfl (Sample.admitted_posting ..) Sample.bodyMembers_redirecting
        (by decide) q hsent hcarries with hurl | hurl | ⟨name, hname, hurl⟩
    · exact absurd hurl (by decide +kernel)
    · exact absurd hurl (by decide +kernel)
    · rw [← Option.some.inj hname] at hurl
      exact absurd hurl (by decide +kernel)
  · intro hkeeps
    let q : Request := Upload.bytesRequest ⟨"https://files.example/xoxb-1", "F"⟩ [104, 105] false
    have hsent : q ∈ (serve Sample.echoingSettings (Sample.posting Sample.echoing)
        Sample.echoingWorld).calls := by decide +kernel
    have hcarries : q.Carries "xoxb-1" :=
      Or.inl ⟨("https://files.example/" : Text).units, [], by decide +kernel⟩
    rcases hkeeps _ _ rfl rfl (Sample.admitted_posting ..) Sample.bodyMembers_echoing
        (by decide) q hsent hcarries with hurl | hurl | ⟨name, hname, hurl⟩
    · exact absurd hurl (by decide +kernel)
    · exact absurd hurl (by decide +kernel)
    · cases hname

end Server

end SlackCourier
