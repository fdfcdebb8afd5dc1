import SlackCourier.Proofs.Exchange.Queries
import SlackCourier.Proofs.Exchange.Stopping
import SlackCourier.Proofs.Text.Occurrence

/-!
# Bodies that cannot be read

A request to the Web API is cut off if it gets no response, or a response with status 200 whose body
cannot be read.  Either ends the session, and is told with its reason.  Where there was no response
the label of the endpoint takes the place of the URL in the reason.  Where a body cannot be read the
reason is told as it came: the URL is shown exactly if the reason quotes it.
-/

namespace SlackCourier

open Session

/-- The requests whose answer is read as an object, each with the label of its endpoint. -/
inductive Request.Labelled (token : Text) (insecure : Bool) : Request → Text → Prop
  | lookup (channel ts : Text) : Labelled token insecure
      (Message.lookupRequest token channel ts insecure) "conversations.history"
  | page (cursor : Option Text) : Labelled token insecure
      (Channel.pageRequest token cursor insecure) "conversations.list"
  | start (upload : Upload) (length : Nat) : Labelled token insecure
      (upload.startRequest token length insecure) "files.getUploadURLExternal"
  | completion (upload : Upload) (fileId channelId : Text) : Labelled token insecure
      (upload.completionRequest token fileId channelId insecure) "files.completeUploadExternal"

/-- Whether a turn cuts off the request for a URL with a label, and the failure that is told. -/
inductive Turn.CutsOff (turn : Turn) (url label : Text) : Failure → Prop
  | unanswered {reason : Text} : turn.answer.settle url = .error (some reason) →
      CutsOff turn url label (.noResponse label (Text.replaceAll url label reason))
  | unread {response : Response} {reason : Text} : turn.answer = .response response →
      response.status = okStatus →
      (response.body = .broken (some reason) ∨ response.body = .crashed reason) →
      CutsOff turn url label (.unreadable reason)

/-- Whether a request of a session that is cut off is its last one, and the session fails with what
is told of it; `wrap` is what becomes of the failure.  The bytes of a file are no such request. -/
def Session.TellsCutOff {ε α : Type} (token : Text) (insecure : Bool) (wrap : Failure → ε)
    (session : Session ε α) : Prop :=
  ∀ (world : World) (before : List Request) (q : Request) (rest : List Request),
    (session world).calls = before ++ q :: rest → (∀ content, q.body ≠ some (.bytes content)) →
    ∃ label, q.Labelled token insecure label ∧
      ∀ turn failure, world.script[before.length]? = some turn → turn.CutsOff q.url label failure →
        rest = [] ∧ (session world).result = .error (wrap failure)

namespace Request.Labelled

variable {token : Text} {insecure : Bool} {q : Request} {label other : Text}

theorem bytesless (h : q.Labelled token insecure label) (content : Text.Bytes) :
    q.body ≠ some (.bytes content) := by
  cases h <;> simp [Message.lookupRequest, Channel.pageRequest, Upload.startRequest,
    Upload.completionRequest]

theorem label_eq (h : q.Labelled token insecure label) :
    label = match q.method, q.headers.length with
      | .post, _ => "files.completeUploadExternal"
      | .get, 1 => "conversations.list"
      | .get, 2 => "files.getUploadURLExternal"
      | .get, _ => "conversations.history" := by
  cases h <;> rfl

theorem unique (h : q.Labelled token insecure label) (hother : q.Labelled token insecure other) :
    label = other := by
  rw [h.label_eq, hother.label_eq]

end Request.Labelled

section

variable {turn : Turn} {label url : Text} {failure : Failure}

theorem Step.readObject_of_cutsOff (step : Step) (h : turn.CutsOff url label failure) :
    step.readObject label url (turn.answer.settle url) = .error (.failure failure) := by
  unfold readObject read
  cases h with
  | unanswered hreason =>
    rw [hreason]
    rfl
  | @unread response reason hanswer hstatus hbody =>
    have hobject : response.object = .error (.failure (.unreadable reason)) := by
      unfold Response.object
      rcases hbody with hbody | hbody <;> rw [hbody]
    simp [hanswer, Answer.settle, received, Except.bind, hstatus, hobject]

end

section

variable {token : Text} {insecure : Bool} {α : Type}

/-- Whether a session stops at each of its requests that is cut off. -/
def StopsCutOff (token : Text) (insecure : Bool) (session : Session Fault α) : Prop :=
  Stops (fun failure q turn => ∃ label, q.Labelled token insecure label ∧
      turn.CutsOff q.url label failure)
    (fun failure fault => fault = .failure failure) session

theorem stopsCutOff_once {r : Request} {label : Text} (h : r.Labelled token insecure label)
    (step : Step) (judge : Members → Except Fault α) :
    StopsCutOff token insecure
      (once r fun met => (step.readObject label r.url met).bind judge) := by
  apply stops_once
  rintro failure turn ⟨other, hother, hcut⟩
  obtain rfl := hother.unique h
  rw [step.readObject_of_cutsOff hcut]
  exact ⟨_, rfl, rfl⟩

theorem Message.stopsCutOff_find (channel ts : Text) :
    StopsCutOff token insecure (find token channel ts insecure) := by
  rw [find_eq_once]
  exact stopsCutOff_once (.lookup channel ts) _ _

theorem Channel.stopsCutOff_find (name : Text) :
    StopsCutOff token insecure (find token name insecure) := by
  refine stops_find name fun cursor => ?_
  rw [readPage_eq_once]
  exact stopsCutOff_once (.page cursor) _ _

theorem Upload.stopsCutOff_steps (upload : Upload) (channel : Text) :
    StopsCutOff token insecure (upload.steps token channel insecure) := by
  refine upload.stops_steps (fun length => ?_) (fun ticket content => ?_) ?_
    fun fileId channelId => ?_
  · exact stopsCutOff_once (.start upload length) _ _
  · apply stops_once
    rintro failure turn ⟨label, hlabel, -⟩
    exact absurd rfl (hlabel.bytesless content)
  · exact Channel.stopsCutOff_find channel
  · exact stopsCutOff_once (.completion upload fileId channelId) _ _

theorem StopsCutOff.tells {session : Session Fault α} (h : StopsCutOff token insecure session)
    (hlabelled : ∀ world, ∀ q ∈ (session world).calls,
      (∀ content, q.body ≠ some (.bytes content)) → ∃ label, q.Labelled token insecure label) :
    TellsCutOff token insecure .failure session := by
  intro world before q rest hcalls hbytes
  obtain ⟨label, hlabel⟩ := hlabelled world q (by simp [hcalls]) hbytes
  refine ⟨label, hlabel, fun turn failure hturn hcut => ?_⟩
  obtain ⟨hrest, fault, hfault, rfl⟩ :=
    h world before q rest turn failure hcalls hturn ⟨label, hlabel, hcut⟩
  exact ⟨hrest, hfault⟩

theorem Message.tellsCutOff_find (channel ts : Text) :
    TellsCutOff token insecure .failure (find token channel ts insecure) := by
  refine (stopsCutOff_find channel ts).tells fun world q hq _ => ?_
  rw [find_apply] at hq
  rw [List.mem_singleton.mp hq]
  exact ⟨_, .lookup channel ts⟩

theorem Channel.tellsCutOff_find (name : Text) :
    TellsCutOff token insecure .failure (find token name insecure) := by
  refine (stopsCutOff_find name).tells fun world q hq _ => ?_
  obtain ⟨cursor, rfl⟩ := mem_calls_find hq
  exact ⟨_, .page cursor⟩

theorem Upload.tellsCutOff_run (upload : Upload) (channel : Text) :
    TellsCutOff token insecure .upload (upload.run token channel insecure) := by
  have hsteps : TellsCutOff token insecure .failure (upload.steps token channel insecure) := by
    refine (upload.stopsCutOff_steps channel).tells fun world q hq hbytes => ?_
    cases mem_calls_steps hq with
    | start length => exact ⟨_, .start upload length⟩
    | bytes => exact absurd rfl (hbytes _)
    | page cursor => exact ⟨_, .page cursor⟩
    | completion fileId channelId => exact ⟨_, .completion upload fileId channelId⟩
  intro world before q rest hcalls hbytes
  obtain ⟨label, hlabel, htold⟩ := hsteps world before q rest hcalls hbytes
  refine ⟨label, hlabel, fun turn failure hturn hcut => ?_⟩
  obtain ⟨hrest, hresult⟩ := htold turn failure hturn hcut
  refine ⟨hrest, ?_⟩
  unfold run
  rw [mapError_apply, hresult]
  rfl

end

namespace Request.Labelled

variable {token : Text} {insecure : Bool} {q : Request} {label : Text}

theorem space_notMem_query {endpoint : Text} (h : Text.unit ' ' ∉ endpoint.units)
    (pairs : List (Text × Text)) :
    Text.unit ' ' ∉ (endpoint ++ "?" ++ Text.formEncode pairs).units := by
  have hmark : Text.unit ' ' ∉ ("?" : Text).units := by decide
  have hquery : Text.unit ' ' ∉ (Text.formEncode pairs).units := fun hmem =>
    Text.notMem_joinList_formPair (by decide) (by decide) (by decide) pairs
      (Text.mem_of_unit_mem_unitsOf (by decide) hmem)
  simp only [Text.units_append, List.mem_append, not_or]
  exact ⟨⟨h, hmark⟩, hquery⟩

theorem space_notMem (h : q.Labelled token insecure label) : Text.unit ' ' ∉ q.url.units := by
  cases h with
  | lookup => exact space_notMem_query (by decide) _
  | page => exact space_notMem_query (by decide) _
  | start => exact space_notMem_query (by decide) _
  | completion =>
    have hplain : Text.unit ' ' ∉ Endpoint.completeUpload.units := by decide
    exact hplain

theorem begins (h : q.Labelled token insecure label) :
    ∃ rest : Text, q.url = "https://slack.com/api/" ++ label ++ rest := by
  have hquery : ∀ (endpoint query : Text), endpoint = "https://slack.com/api/" ++ label →
      ∃ rest, endpoint ++ "?" ++ query = "https://slack.com/api/" ++ label ++ rest := by
    rintro endpoint query rfl
    exact ⟨"?" ++ query, Text.append_assoc ..⟩
  cases h with
  | lookup => exact hquery Endpoint.history _ (by decide)
  | page => exact hquery Endpoint.channels _ (by decide)
  | start => exact hquery Endpoint.startUpload _ (by decide)
  | completion =>
    have hplain : Endpoint.completeUpload =
        "https://slack.com/api/" ++ "files.completeUploadExternal" ++ "" := by decide
    exact ⟨"", hplain⟩

theorem length_label_lt (h : q.Labelled token insecure label) : label.length < q.url.length := by
  obtain ⟨rest, hurl⟩ := h.begins
  have hapi : ("https://slack.com/api/" : Text).length = 22 := by decide
  rw [hurl, Text.length_append, Text.length_append, hapi]
  omega

theorem occursIn_append_iff (h : q.Labelled token insecure label) (front ahead back : Text)
    (hslash : Text.unit '/' ∉ front.units) (hends : front = ahead ++ " ") :
    q.url.OccursIn (front ++ back) ↔ q.url.OccursIn back := by
  have hfront : ¬ q.url.OccursIn front := by
    obtain ⟨rest, hurl⟩ := h.begins
    intro hoccurs
    apply hslash
    apply hoccurs.subset
    rw [hurl, Text.units_append, Text.units_append, List.append_assoc]
    have hapi : Text.unit '/' ∈ ("https://slack.com/api/" : Text).units := by decide
    exact List.mem_append_left _ hapi
  have hacross := Text.not_straddles_of_ends (congrArg Text.units hends) h.space_notMem back
  rw [Text.occursIn_append_iff]
  simp only [hfront, hacross, false_or, or_false]

theorem occursIn_unreadable_iff (h : q.Labelled token insecure label) (reason : Text) :
    q.url.OccursIn (Failure.unreadable reason).message ↔ q.url.OccursIn reason :=
  h.occursIn_append_iff "Failed to read the Slack API response: "
    "Failed to read the Slack API response:" reason (by decide) (by decide)

theorem occursIn_upload_unreadable_iff (h : q.Labelled token insecure label) (reason : Text) :
    q.url.OccursIn (Failure.upload (.unreadable reason)).message ↔ q.url.OccursIn reason := by
  rw [← h.occursIn_unreadable_iff reason]
  exact h.occursIn_append_iff "Error uploading file: " "Error uploading file:" _ (by decide)
    (by decide)

end Request.Labelled

/-- Every lookup, every search and every upload ends with a request of its own to the Web API that
is cut off, and fails with what is told of it.  With no response the label takes the place of the
URL in the reason.  With a body that cannot be read the reason is told as it came: it shows the URL
if and only if it quotes it, and then it is not what it is with the label in its place. -/
theorem cut_off_told (token : Text) (insecure : Bool) :
    (∀ channel ts, TellsCutOff token insecure .failure
      (Message.find token channel ts insecure)) ∧
    (∀ name, TellsCutOff token insecure .failure (Channel.find token name insecure)) ∧
    (∀ (upload : Upload) (channel : Text), TellsCutOff token insecure .upload
      (upload.run token channel insecure)) ∧
    ∀ (q : Request) (label reason : Text), q.Labelled token insecure label →
      (Failure.unreadable reason).code = .transport ∧
      (Failure.unreadable reason).status? = some Failure.noStatus ∧
      (q.url.OccursIn (Failure.unreadable reason).message ↔ q.url.OccursIn reason) ∧
      (q.url.OccursIn (Failure.upload (.unreadable reason)).message ↔ q.url.OccursIn reason) ∧
      ((Failure.unreadable reason).message =
        "Failed to read the Slack API response: " ++ Text.replaceAll q.url label reason ↔
          ¬ q.url.OccursIn reason) := by
  refine ⟨Message.tellsCutOff_find, Channel.tellsCutOff_find, Upload.tellsCutOff_run, ?_⟩
  intro q label reason hlabel
  refine ⟨rfl, rfl, hlabel.occursIn_unreadable_iff reason,
    hlabel.occursIn_upload_unreadable_iff reason, ?_⟩
  rw [← Text.replaceAll_eq_self_iff hlabel.length_label_lt reason, eq_comm]
  exact Text.append_left_cancel_iff

/-- Surroundings with a file, and one answer to come, whose body cannot be read. -/
def breaking (reason : Text) : World :=
  { script := [⟨[], .response ⟨okStatus, "OK", .broken (some reason)⟩⟩]
    tree := ⟨[(["a.txt"], .file [104, 105])]⟩
    directory := [] }

/-- What is said when the connection for a URL is lost. -/
def lost (url : Text) : Text := "read " ++ url ++ " failed"

def plainUpload : Upload :=
  { path := "a.txt", filename := none, altText := none, snippetType := none
    initialComment := none, threadTs := none, title := none }

theorem Session.TellsCutOff.result_breaking {ε α : Type} {token : Text} {insecure : Bool}
    {wrap : Failure → ε} {session : Session ε α} (h : TellsCutOff token insecure wrap session)
    {q : Request} {reason : Text} (hcalls : (session (breaking reason)).calls = [q])
    (hbytes : ∀ content, q.body ≠ some (.bytes content)) :
    ∃ label, q.Labelled token insecure label ∧
      (session (breaking reason)).result = .error (wrap (.unreadable reason)) := by
  obtain ⟨label, hlabel, htold⟩ := h (breaking reason) [] q [] hcalls hbytes
  exact ⟨label, hlabel, (htold _ _ rfl (.unread rfl rfl (Or.inl rfl))).2⟩

/-- A body whose reading fails with the URL in the reason: the lookup, the search and the upload all
show it. -/
theorem cut_off_told_of_breaking :
    let look := Message.lookupRequest "xoxb-1" "C1" "1.5" false
    let list := Channel.pageRequest "xoxb-1" none false
    let start := plainUpload.startRequest "xoxb-1" 2 false
    ((Message.find "xoxb-1" "C1" "1.5" false (breaking (lost look.url))).result =
        .error (.failure (.unreadable (lost look.url))) ∧
      look.url.OccursIn (Failure.unreadable (lost look.url)).message) ∧
    ((Channel.find "xoxb-1" "general" false (breaking (lost list.url))).result =
        .error (.failure (.unreadable (lost list.url))) ∧
      list.url.OccursIn (Failure.unreadable (lost list.url)).message) ∧
    (plainUpload.run "xoxb-1" "general" false (breaking (lost start.url))).result =
        .error (.upload (.unreadable (lost start.url))) ∧
      start.url.OccursIn (Failure.upload (.unreadable (lost start.url))).message := by
  intro look list start
  have hquotes : ∀ url : Text, url.OccursIn (lost url) := fun url =>
    ⟨("read " : Text).units, (" failed" : Text).units, rfl⟩
  obtain ⟨hlookup, hsearch, hupload, hwords⟩ := cut_off_told "xoxb-1" false
  refine ⟨?_, ?_, ?_⟩
  · have hcalls : (Message.find "xoxb-1" "C1" "1.5" false (breaking (lost look.url))).calls =
        [look] := by
      rw [Message.find_apply]
      rfl
    obtain ⟨label, hlabel, hresult⟩ := (hlookup "C1" "1.5").result_breaking hcalls
      (by simp [look, Message.lookupRequest])
    obtain ⟨-, -, hshows, -⟩ := hwords look label (lost look.url) hlabel
    exact ⟨hresult, hshows.2 (hquotes look.url)⟩
  · have hcalls : (Channel.find "xoxb-1" "general" false (breaking (lost list.url))).calls =
        [list] := (Channel.firstMatch_find ..).calls
    obtain ⟨label, hlabel, hresult⟩ := (hsearch "general").result_breaking hcalls
      (by simp [list, Channel.pageRequest])
    obtain ⟨-, -, hshows, -⟩ := hwords list label (lost list.url) hlabel
    exact ⟨hresult, hshows.2 (hquotes list.url)⟩
  · have hcalls : (plainUpload.run "xoxb-1" "general" false (breaking (lost start.url))).calls =
        [start] := by
      decide +kernel
    obtain ⟨label, hlabel, hresult⟩ := (hupload plainUpload "general").result_breaking hcalls
      (by simp [start, Upload.startRequest])
    obtain ⟨-, -, -, hshows, -⟩ := hwords start label (lost start.url) hlabel
    exact ⟨hresult, hshows.2 (hquotes start.url)⟩

/-- A body whose reading fails with the URL in the reason is not told of with the label in the place
of the URL. -/
theorem url_shown_by_unreadable :
    ¬ ∀ (token channel ts : Text) (insecure : Bool) (world : World) (response : Response)
      (reason : Text), world.Answers 0 response → response.status = okStatus →
      (response.body = .broken (some reason) ∨ response.body = .crashed reason) →
      ∃ failure, (Message.find token channel ts insecure world).result =
          .error (.failure failure) ∧
        failure.code = .transport ∧ failure.status? = some Failure.noStatus ∧
        failure.message = "Failed to read the Slack API response: " ++
          Text.replaceAll (Message.lookupRequest token channel ts insecure).url
            "conversations.history" reason := by
  intro hclaim
  let q := Message.lookupRequest "xoxb-1" "C1" "1.5" false
  obtain ⟨failure, hfailure, -, -, hmessage⟩ := hclaim "xoxb-1" "C1" "1.5" false
    (breaking (lost q.url)) _ (lost q.url) ⟨[], rfl⟩ rfl (Or.inl rfl)
  have hresult : (Message.find "xoxb-1" "C1" "1.5" false (breaking (lost q.url))).result =
      .error (.failure (.unreadable (lost q.url))) := by
    rw [Message.find_apply]
    rfl
  rw [hresult] at hfailure
  obtain rfl := Fault.failure.inj (Except.error.inj hfailure)
  exact absurd hmessage (by decide +kernel)

end SlackCourier
