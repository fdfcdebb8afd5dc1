import SlackCourier.Proofs.Channel.Search
import SlackCourier.Proofs.Json.Members
import SlackCourier.Proofs.Task.Requests

/-!
# The requests of an upload

An upload asks for an address, posts the bytes there, turns the pages of the list of channels, and
completes.  What it sends is always a beginning of that, and goes only as far as every answer so far
allows.  Files may disappear on the way, but what is posted is what was measured.
-/

namespace SlackCourier

open Session

namespace Upload

/-- Whether the first answer opens an upload: it brings a ticket, and the file is there to be
read. -/
structure Opens (upload : Upload) (world : World) (ticket : UploadTicket)
    (content : Text.Bytes) : Prop where
  answered : ∃ answer, world.Grants 0 answer ∧ isOk answer = true ∧
    answer.get? "upload_url" = some (.string ticket.url) ∧
    answer.get? "file_id" = some (.string ticket.fileId)
  read : world.tree.read world.directory upload.path = .ok content

/-- Whether the second answer takes the bytes. -/
def Takes (world : World) : Prop :=
  ∃ response, world.Answers 1 response ∧ response.status = okStatus

/-- Whether a part of an upload stands under a name exactly when it is there and not empty. -/
def Tells {α : Type} (wrap : Text → α) (list : List (Text × α)) (name : Text)
    (part : Option Text) : Prop :=
  ∀ value, list.lookup name = some value ↔
    ∃ text, (part = some text ∧ text ≠ "") ∧ wrap text = value

/-- What an upload says of its file when it asks for an address. -/
structure Describes (upload : Upload) (length : Nat) (query : List (Text × Text)) : Prop where
  length_eq : query.lookup ("length" : Text) = some (Text.ofString (toString length))
  altText : Tells id query "alt_text" upload.altText
  snippetType : Tells id query "snippet_type" upload.snippetType

structure Completes (upload : Upload) (fileId channelId : Text) (members : Members) : Prop where
  file : ∃ file : Members, members.get? "files" = some (.list [.object file]) ∧
    file.get? "id" = some (.string fileId) ∧ Tells .string file "title" upload.title
  channelId_eq : members.get? "channel_id" = some (.string channelId)
  initialComment : Tells .string members "initial_comment" upload.initialComment
  threadTs : Tells .string members "thread_ts" upload.threadTs

/-- Whether no request carries a text, as the completion does. -/
def Textless (calls : List Request) : Prop :=
  ∀ q ∈ calls, ∀ text, q.body ≠ some (.text text)

section

variable (upload : Upload) (token channel : Text) (insecure : Bool) (world : World)

/-- The requests that an upload can come to, each with what has gone before it. -/
inductive Progress : List Request → Prop
  | nothing : Progress []
  | start {length : Nat} : world.tree.size world.directory upload.path = .ok length →
      Progress [upload.startRequest token length insecure]
  | bytes {ticket : UploadTicket} {content : Text.Bytes} : upload.Opens world ticket content →
      Progress [upload.startRequest token content.length insecure,
        bytesRequest ticket content insecure]
  | pages {ticket : UploadTicket} {content : Text.Bytes} {turned : List (Option Text)}
      {last : Option Text} : upload.Opens world ticket content → Takes world →
      Channel.Turns world channel 2 none turned last →
      Progress (upload.startRequest token content.length insecure ::
        bytesRequest ticket content insecure ::
          (turned ++ [last]).map (Channel.pageRequest token · insecure))
  | completion {ticket : UploadTicket} {content : Text.Bytes} {turned : List (Option Text)}
      {last : Option Text} {channelId : Text} {between : World} :
      upload.Opens world ticket content → Takes world →
      Channel.Turns world channel 2 none turned last →
      Channel.Finds world channel (2 + turned.length) channelId →
      world.Later between 2 → (Channel.find token channel insecure between).result = .ok channelId →
      Progress (upload.startRequest token content.length insecure ::
        bytesRequest ticket content insecure ::
          ((turned ++ [last]).map (Channel.pageRequest token · insecure) ++
            [upload.completionRequest token ticket.fileId channelId insecure]))

/-- How the requests and the result of an upload go together: it ends before the completion, or the
completion is the last request and its answer decides. -/
inductive Course (sent : List Request) (ending : Ending Fault Members) : Prop
  | broken {fault : Fault} : Progress upload token channel insecure world (sent ++ ending.calls) →
      Textless (sent ++ ending.calls) → ending.result = .error fault → Course sent ending
  | whole {before : List Request} {fileId channelId : Text} :
      Progress upload token channel insecure world (sent ++ ending.calls) →
      sent ++ ending.calls = before ++ [upload.completionRequest token fileId channelId insecure] →
      (∀ answer, ending.result = .ok answer ↔
        world.Grants before.length answer ∧ isOk answer = true) → Course sent ending

end

variable {upload : Upload} {token channel : Text} {insecure : Bool} {world : World}

theorem course_bind {α : Type} {sent : List Request} {first : Session Fault α}
    {next : α → Session Fault Members} {between : World}
    (hbroken : ∀ fault, (first between).result = .error fault →
      Progress upload token channel insecure world (sent ++ (first between).calls) ∧
        Textless (sent ++ (first between).calls))
    (hnext : ∀ value, (first between).result = .ok value →
      Course upload token channel insecure world (sent ++ (first between).calls)
        (next value (first between).world)) :
    Course upload token channel insecure world sent ((first >>= next) between) := by
  cases hresult : (first between).result with
  | error fault =>
    obtain ⟨hsent, hbody⟩ := hbroken fault hresult
    rw [← calls_bind_of_error hresult] at hsent hbody
    have hfault : ((first >>= next) between).result = .error fault := by
      rw [bind_error hresult]
    exact .broken hsent hbody hfault
  | ok value =>
    have hcalls : sent ++ ((first >>= next) between).calls =
        sent ++ (first between).calls ++ (next value (first between).world).calls := by
      rw [calls_bind_of_ok hresult, List.append_assoc]
    have hsame : ((first >>= next) between).result =
        (next value (first between).world).result := by
      rw [bind_ok hresult]
    cases hnext value hresult with
    | broken hsent hbody hfault =>
      exact .broken (hcalls ▸ hsent) (hcalls ▸ hbody) (hsame.trans hfault)
    | whole hsent hlast hanswer =>
      exact .whole (hcalls ▸ hsent) (hcalls.trans hlast) (hsame ▸ hanswer)

theorem completed_eq_ok_iff {answer told : Members} :
    completed answer = .ok told ↔ told = answer ∧ isOk answer = true := by
  unfold completed
  split_ifs with hok <;> simp [hok, eq_comm]

theorem course_of_completion {between : World} {sent : List Request} {fileId channelId : Text}
    (hlater : world.Later between sent.length)
    (hsent : Progress upload token channel insecure world
      (sent ++ [upload.completionRequest token fileId channelId insecure])) :
    let r := upload.completionRequest token fileId channelId insecure
    Course upload token channel insecure world sent
      ((once r (Step.completingUpload.readObject "files.completeUploadExternal" r.url) >>=
        fun answer => lift ((completed answer).mapError .failure)) between) := by
  intro r
  rw [once_bind_lift]
  refine .whole hsent rfl fun told => ?_
  simp only [once_apply]
  constructor
  · intro h
    cases hread : Step.completingUpload.readObject "files.completeUploadExternal" r.url
        (between.answer r.url).1 with
    | error fault => simp [hread, Except.bind] at h
    | ok answer =>
      simp only [hread, Except.bind, mapError_eq_ok_iff, completed_eq_ok_iff] at h
      obtain ⟨rfl, hok⟩ := h
      exact ⟨hlater.readObject_eq_ok_iff.1 hread, hok⟩
  · rintro ⟨hgrants, hok⟩
    rw [hlater.readObject_eq_ok_iff.2 hgrants]
    simp [Except.bind, completed, hok]

theorem course_of_search {ticket : UploadTicket} {content : Text.Bytes} {between : World}
    (hopens : upload.Opens world ticket content) (htakes : Takes world)
    (hlater : world.Later between 2) :
    let r := fun channelId => upload.completionRequest token ticket.fileId channelId insecure
    Course upload token channel insecure world
      [upload.startRequest token content.length insecure, bytesRequest ticket content insecure]
      ((Channel.find token channel insecure >>= fun channelId =>
        once (r channelId) (Step.completingUpload.readObject "files.completeUploadExternal"
          (r channelId).url) >>= fun answer =>
            lift ((completed answer).mapError .failure)) between) := by
  intro r
  obtain ⟨turned, last, hturns, hcalls, hresult⟩ :=
    Channel.turns_of_find hlater token channel insecure
  refine course_bind (fun fault hfault => ?_) fun channelId hfound => ?_
  · rw [hcalls]
    refine ⟨.pages hopens htakes hturns, fun q hq text => ?_⟩
    simp only [List.cons_append, List.nil_append, List.mem_cons, List.mem_map] at hq
    rcases hq with rfl | rfl | ⟨cursor, -, rfl⟩ <;>
      simp [startRequest, bytesRequest, Channel.pageRequest]
  · have hfinds := (hresult channelId).1 hfound
    have hafter := Channel.steady_find token channel insecure between
    have hall := hlater.trans hafter
    rw [hcalls] at hall ⊢
    refine course_of_completion ?_ ?_
    · rw [List.length_append]
      exact hall
    · exact .completion hopens htakes hturns hfinds hlater hfound

theorem course_of_steps (upload : Upload) (token channel : Text) (insecure : Bool)
    (world : World) : Course upload token channel insecure world []
      (upload.steps token channel insecure world) := by
  unfold steps
  simp only [call_eq_once, sendFor_eq_once]
  refine course_bind (fun fault _ => ?_) fun length hlength => ?_
  · rw [calls_measure]
    exact ⟨.nothing, by simp [Textless]⟩
  have hsize := measure_eq_ok hlength
  rw [calls_measure, world_measure]
  have hstart : Progress upload token channel insecure world
      [upload.startRequest token length insecure] := .start hsize
  have hstartBare : Textless [upload.startRequest token length insecure] := by
    simp [Textless, startRequest]
  refine course_bind (fun fault _ => ⟨hstart, hstartBare⟩) fun started hstarted => ?_
  have hgrants := (World.Later.refl world).readObject_eq_ok_iff.1 hstarted
  have hasked := World.later_answer world (upload.startRequest token length insecure).url
  change Course _ _ _ _ _ [upload.startRequest token length insecure] _
  refine course_bind (fun fault _ => ?_) fun ticket hticket => ?_
  · rw [calls_lift]
    exact ⟨hstart, hstartBare⟩
  rw [result_lift, mapError_eq_ok_iff] at hticket
  rw [calls_lift, world_lift]
  refine course_bind (fun fault _ => ?_) fun content hcontent => ?_
  · rw [calls_content]
    exact ⟨hstart, hstartBare⟩
  -- What can be read now was there when it was measured: files disappear, but do not change.
  have hread : world.tree.read world.directory upload.path = .ok content :=
    hasked.read (content_eq_ok hcontent)
  rw [calls_content, world_content]
  have hopens : upload.Opens world ticket content :=
    ⟨⟨started, hgrants, ticketOf_eq_ok hticket⟩, hread⟩
  have hlength : length = content.length := by
    rw [File.Tree.size_of_read hread] at hsize
    exact (Except.ok.inj hsize).symm
  subst hlength
  have hbytes : Progress upload token channel insecure world
      [upload.startRequest token content.length insecure,
        bytesRequest ticket content insecure] := .bytes hopens
  have hbytesBare : Textless [upload.startRequest token content.length insecure,
      bytesRequest ticket content insecure] := by
    simp [Textless, startRequest, bytesRequest]
  refine course_bind (fun fault _ => ⟨hbytes, hbytesBare⟩) fun response hresponse => ?_
  have htakes : Takes world := ⟨response, hasked.read_eq_ok_iff.1 hresponse⟩
  have hposted := hasked.trans (World.later_answer _ (bytesRequest ticket content insecure).url)
  exact course_of_search hopens htakes hposted

theorem tells_of_lookup {α : Type} {wrap : Text → α} {list : List (Text × α)} {name : Text}
    {part : Option Text} (h : list.lookup name = (Text.given part).map wrap) :
    Tells wrap list name part := by
  intro value
  rw [h, Option.map_eq_some_iff]
  simp only [Text.given_eq_some_iff]

theorem describes_startQuery (upload : Upload) (length : Nat) :
    upload.Describes length (upload.startQuery length) := by
  have hparameter : ∀ (name other : Text) (value : Option Text),
      (Text.parameter other value).lookup name = if name = other then value else none := by
    intro name other value
    cases value with
    | none => simp [Text.parameter]
    | some value => by_cases h : name = other <;> simp [Text.parameter, h]
  have hnames : ∀ name ∈ ["alt_text", "snippet_type"],
      (Text.ofString name == "filename") = false ∧ (Text.ofString name == "length") = false := by
    decide
  refine ⟨rfl, tells_of_lookup ?_, tells_of_lookup ?_⟩
  · obtain ⟨hfilename, hlength⟩ := hnames "alt_text" (by simp)
    simp [startQuery, List.lookup_cons, hfilename, hlength, List.lookup_append, hparameter]
  · obtain ⟨hfilename, hlength⟩ := hnames "snippet_type" (by simp)
    simp [startQuery, List.lookup_cons, hfilename, hlength, List.lookup_append, hparameter]

theorem completes_completion (upload : Upload) (fileId channelId : Text) :
    upload.Completes fileId channelId (upload.completion fileId channelId) := by
  have hnames : ∀ name ∈ ["initial_comment", "thread_ts"],
      (Text.ofString name == "files") = false ∧ (Text.ofString name == "channel_id") = false := by
    decide
  have hid : (("title" : Text) == "id") = false := by decide
  refine ⟨⟨("id", .string fileId) ::
      Members.optional "title" ((Text.given upload.title).map .string), rfl, rfl,
    tells_of_lookup ?_⟩, rfl, tells_of_lookup ?_, tells_of_lookup ?_⟩
  · simp [List.lookup_cons, hid, Members.lookup_optional]
  · obtain ⟨hfiles, hchannel⟩ := hnames "initial_comment" (by simp)
    simp [completion, List.lookup_cons, hfiles, hchannel, List.lookup_append,
      Members.lookup_optional]
  · obtain ⟨hfiles, hchannel⟩ := hnames "thread_ts" (by simp)
    simp [completion, List.lookup_cons, hfiles, hchannel, List.lookup_append,
      Members.lookup_optional]

end Upload

end SlackCourier
