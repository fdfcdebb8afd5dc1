import SlackCourier.Proofs.Exchange.Course
import SlackCourier.Proofs.Json.Members

/-!
# The requests of a task

Every request that a run of a task can send, said once as a relation with one rule for each kind of
request.  A rule keeps what is known when its request goes out: where the address for the bytes came
from, and from which later surroundings the bytes were read.
-/

namespace SlackCourier

open Session

/-- Whether one of the answers to come is a response with an object. -/
def World.Tells (world : World) (answer : Members) : Prop :=
  ∃ turn ∈ world.script, ∃ response, turn.answer = .response response ∧
    response.object = .ok answer

theorem World.Later.tells {before after : World} {n : Nat} (h : before.Later after n)
    {answer : Members} (ht : after.Tells answer) : before.Tells answer := by
  obtain ⟨turn, hturn, hrest⟩ := ht
  exact ⟨turn, h.mem_script hturn, hrest⟩

theorem World.tells_of_readObject {world : World} {step : Step} {label url : Text}
    {answer : Members} (h : step.readObject label url (world.answer url).1 = .ok answer) :
    world.Tells answer := by
  obtain ⟨response, hmet, -, hobject⟩ := Step.readObject_eq_ok_iff.1 h
  obtain ⟨turn, rest, hscript, hanswer⟩ := World.answer_eq_ok hmet
  exact ⟨turn, by simp [hscript], response, hanswer, hobject⟩

namespace Endpoint

theorem startsWith_api {url : Text} (h : url ∈ api) :
    url.startsWith "https://slack.com/api/" = true := by
  revert url
  decide

theorem startsWith_api_query {url : Text} (h : url ∈ api) (query : Text) :
    (url ++ "?" ++ query).startsWith "https://slack.com/api/" = true := by
  apply Text.startsWith_append_of
  apply Text.startsWith_append_of
  exact startsWith_api h

end Endpoint

namespace Channel

theorem mem_calls_searchWithin {token name : Text} {insecure : Bool} {pages : Nat}
    {cursor : Option Text} {world : World} {q : Request}
    (h : q ∈ (searchWithin token name insecure pages cursor world).calls) :
    ∃ cursor, q = pageRequest token cursor insecure := by
  induction pages generalizing cursor world with
  | zero => cases h
  | succ pages ih =>
    rw [searchWithin, readPage_eq_once] at h
    rcases mem_calls_bind h with h | ⟨page, -, h⟩
    · exact ⟨cursor, List.mem_singleton.mp h⟩
    · cases hfind : page.find? name with
      | some id => simp [hfind] at h
      | none =>
        cases hnext : page.next with
        | none => simp [hfind, hnext] at h
        | some next =>
          rw [hfind, hnext] at h
          exact ih h

theorem mem_calls_find {token name : Text} {insecure : Bool} {world : World} {q : Request}
    (h : q ∈ (find token name insecure world).calls) :
    ∃ cursor, q = pageRequest token cursor insecure := by
  rw [find_eq_searchWithin] at h
  exact mem_calls_searchWithin h

end Channel

namespace Upload

/-- A request of an upload, with what is known when it goes out. -/
inductive Sends (upload : Upload) (token : Text) (insecure : Bool) (world : World) :
    Request → Prop
  | start (length : Nat) : Sends upload token insecure world
      (upload.startRequest token length insecure)
  | bytes {answer : Members} {ticket : UploadTicket} {later : World} {n : Nat}
      {content : Text.Bytes} :
      world.Tells answer → ticketOf answer = .ok ticket → world.Later later n →
      later.tree.read later.directory upload.path = .ok content →
      Sends upload token insecure world (bytesRequest ticket content insecure)
  | page (cursor : Option Text) : Sends upload token insecure world
      (Channel.pageRequest token cursor insecure)
  | completion (fileId channelId : Text) : Sends upload token insecure world
      (upload.completionRequest token fileId channelId insecure)

theorem measure_apply (path : Text) (world : World) :
    measure path world = ⟨(world.tree.size world.directory path).mapError fun _ =>
      .failure (.fileMissing path), [.look path], world⟩ := by
  unfold measure
  have hlook : (look path (fun tree directory => tree.size directory path) world :
      Ending Fault _).result = .ok (world.tree.size world.directory path) := rfl
  rw [bind_ok hlook]
  cases world.tree.size world.directory path <;> rfl

theorem content_apply (path : Text) (world : World) :
    content path world = ⟨(world.tree.read world.directory path).mapError fun _ =>
      .failure (.fileUnreadable path), [.look path], world⟩ := by
  unfold content
  have hlook : (look path (fun tree directory => tree.read directory path) world :
      Ending Fault _).result = .ok (world.tree.read world.directory path) := rfl
  rw [bind_ok hlook]
  cases world.tree.read world.directory path <;> rfl

@[simp] theorem calls_measure (path : Text) (world : World) :
    (measure path world).calls = [] := by
  rw [measure_apply]
  rfl

@[simp] theorem calls_content (path : Text) (world : World) :
    (content path world).calls = [] := by
  rw [content_apply]
  rfl

@[simp] theorem world_measure (path : Text) (world : World) :
    (measure path world).world = world := by
  rw [measure_apply]

@[simp] theorem world_content (path : Text) (world : World) :
    (content path world).world = world := by
  rw [content_apply]

theorem measure_eq_ok {path : Text} {world : World} {length : Nat}
    (h : (measure path world).result = .ok length) :
    world.tree.size world.directory path = .ok length := by
  rw [measure_apply] at h
  exact mapError_eq_ok_iff.1 h

theorem content_eq_ok {path : Text} {world : World} {bytes : Text.Bytes}
    (h : (content path world).result = .ok bytes) :
    world.tree.read world.directory path = .ok bytes := by
  rw [content_apply] at h
  exact mapError_eq_ok_iff.1 h

theorem ticketOf_eq_ok {answer : Members} {ticket : UploadTicket}
    (h : ticketOf answer = .ok ticket) :
    isOk answer = true ∧ answer.get? "upload_url" = some (.string ticket.url) ∧
      answer.get? "file_id" = some (.string ticket.fileId) := by
  unfold ticketOf at h
  split_ifs at h with hok
  dsimp only at h
  split at h
  · rename_i url fileId hurl hfile
    rw [← Except.ok.inj h]
    exact ⟨hok, Json.bind_text?_eq_some_iff.1 hurl, Json.bind_text?_eq_some_iff.1 hfile⟩
  · cases h

theorem mem_calls_steps {upload : Upload} {token channel : Text} {insecure : Bool}
    {world : World} {q : Request} (h : q ∈ (upload.steps token channel insecure world).calls) :
    upload.Sends token insecure world q := by
  unfold steps at h
  simp only [call_eq_once, sendFor_eq_once] at h
  rcases mem_calls_bind h with h | ⟨length, -, h⟩
  · simp at h
  have hmeasured := steady_measure upload.path world
  rcases mem_calls_bind h with h | ⟨started, hstarted, h⟩
  · rw [List.mem_singleton.mp h]
    exact .start length
  have htold := hmeasured.tells (World.tells_of_readObject hstarted)
  have hasked := hmeasured.trans
    (World.later_answer _ (upload.startRequest token length insecure).url)
  rcases mem_calls_bind h with h | ⟨ticket, hticket, h⟩
  · simp at h
  have hgiven : ticketOf started = .ok ticket := by
    rw [result_lift] at hticket
    exact mapError_eq_ok_iff.1 hticket
  rw [world_lift] at h
  rcases mem_calls_bind h with h | ⟨bytes, hbytes, h⟩
  · simp at h
  rcases mem_calls_bind h with h | ⟨sent, -, h⟩
  · rw [List.mem_singleton.mp h]
    exact .bytes htold hgiven hasked (content_eq_ok hbytes)
  rcases mem_calls_bind h with h | ⟨channelId, -, h⟩
  · obtain ⟨cursor, rfl⟩ := Channel.mem_calls_find h
    exact .page cursor
  rcases mem_calls_bind h with h | ⟨answer, -, h⟩
  · rw [List.mem_singleton.mp h]
    exact .completion ticket.fileId channelId
  · simp at h

end Upload

namespace Task

/-- A request of a task, with what is known when it goes out. -/
inductive Sends (task : Task) (world : World) : Request → Prop
  | upload {upload : Upload} {q : Request} : task.uploadFile = some upload →
      upload.Sends task.token task.insecure world q → Sends task world q
  | lookup {channel messageId : Text} : task.uploadFile = none →
      Sends task world (Message.lookupRequest task.token channel messageId task.insecure)
  | message {target : Target} : task.uploadFile = none →
      Target.of task.token (task.payload.get? "ts").isSome task.domain = .ok target →
      Sends task world
        (Message.requestTo target (Json.object task.payload).compact task.insecure)

theorem mem_calls_preview {task : Task} {dryRun : Bool} {world : World} {q : Request}
    (h : q ∈ (task.preview dryRun world).calls) :
    ∃ channel messageId, q = Message.lookupRequest task.token channel messageId task.insecure := by
  unfold preview at h
  split at h
  · simp at h
  cases hid : task.messageId with
  | none => simp [hid] at h
  | some messageId =>
    simp only [hid, previewEdit, Message.find_eq_once] at h
    rcases mem_calls_bind h with h | ⟨channel, -, h⟩
    · simp at h
    rcases mem_calls_bind h with h | ⟨message, -, h⟩
    · exact ⟨channel, messageId, List.mem_singleton.mp h⟩
    · split_ifs at h <;> simp at h

def readSent (task : Task) (target : Target) (met : Except (Option Text) Response) :
    Except Fault Outcome :=
  (Message.readDelivery target (Json.object task.payload).compact met).bind fun answer =>
    (sentOutcome task.payload answer).mapError .failure

theorem sendMessage_of_target {task : Task} {target : Target}
    (h : Target.of task.token (task.payload.get? "ts").isSome task.domain = .ok target) :
    task.sendMessage =
      once (Message.requestTo target (Json.object task.payload).compact task.insecure)
        (task.readSent target) := by
  unfold sendMessage
  rw [Message.deliver_of_target h]
  exact once_bind_lift ..

theorem sendMessage_of_no_target {task : Task} {failure : Failure}
    (h : Target.of task.token (task.payload.get? "ts").isSome task.domain = .error failure) :
    task.sendMessage = Session.fail (.failure failure) := by
  unfold sendMessage
  rw [Message.deliver_of_no_target h, fail_bind]

theorem mem_calls_sendMessage {task : Task} {world : World} {q : Request}
    (h : q ∈ (task.sendMessage world).calls) :
    ∃ target, Target.of task.token (task.payload.get? "ts").isSome task.domain = .ok target ∧
      q = Message.requestTo target (Json.object task.payload).compact task.insecure := by
  cases htarget : Target.of task.token (task.payload.get? "ts").isSome task.domain with
  | error failure =>
    rw [sendMessage_of_no_target htarget] at h
    simp at h
  | ok target =>
    rw [sendMessage_of_target htarget] at h
    exact ⟨target, rfl, List.mem_singleton.mp h⟩

theorem mem_calls_runMessage {task : Task} {dryRun : Bool} {world : World} {q : Request}
    (hfile : task.uploadFile = none) (h : q ∈ (task.runMessage dryRun world).calls) :
    task.Sends world q := by
  unfold runMessage at h
  rcases mem_calls_bind h with h | ⟨seen, -, h⟩
  · obtain ⟨channel, messageId, rfl⟩ := mem_calls_preview h
    exact .lookup hfile
  cases seen with
  | some outcome => simp at h
  | none =>
    obtain ⟨target, htarget, rfl⟩ := mem_calls_sendMessage h
    exact .message hfile htarget

theorem runUpload_of_no_channel {task : Task} {failure : Failure}
    (h : task.channelFor .uploading = .error failure) (upload : Upload) (dryRun : Bool) :
    task.runUpload upload dryRun = Session.fail failure := by
  unfold runUpload
  rw [h]
  rfl

theorem runUpload_of_channel {task : Task} {channel : Text}
    (h : task.channelFor .uploading = .ok channel) (upload : Upload) (dryRun : Bool) :
    task.runUpload upload dryRun =
      if dryRun then Pure.pure .wouldUpload
      else upload.run task.token channel task.insecure >>= fun answer =>
        Pure.pure (Outcome.uploaded answer) := by
  unfold runUpload
  rw [h]
  rfl

theorem mem_calls_runUpload {task : Task} {upload : Upload} {dryRun : Bool} {world : World}
    {q : Request} (h : q ∈ (task.runUpload upload dryRun world).calls) :
    upload.Sends task.token task.insecure world q := by
  cases hchannel : task.channelFor .uploading with
  | error failure =>
    rw [runUpload_of_no_channel hchannel] at h
    simp at h
  | ok channel =>
    rw [runUpload_of_channel hchannel] at h
    cases dryRun with
    | true => simp at h
    | false =>
      rcases mem_calls_bind h with h | ⟨answer, -, h⟩
      · exact Upload.mem_calls_steps h
      · simp at h

theorem outcome_of_upload {task : Task} {upload : Upload} (h : task.uploadFile = some upload)
    (dryRun : Bool) : task.outcome dryRun = (task.runUpload upload dryRun).mapError .failure := by
  simp [outcome, h]

theorem outcome_of_message {task : Task} (h : task.uploadFile = none) (dryRun : Bool) :
    task.outcome dryRun = task.runMessage dryRun := by
  simp [outcome, h]

def told (task : Task) : Except Fault Outcome → Except Mishap Report
  | .ok outcome => .ok ⟨outcome, task.warnings⟩
  | .error (.failure failure) => .ok ⟨.failed failure, task.warnings⟩
  | .error (.mishap mishap) => .error mishap

theorem run_apply (task : Task) (dryRun : Bool) (world : World) :
    task.run dryRun world =
      ⟨task.told (task.outcome dryRun world).result, (task.outcome dryRun world).trace,
        (task.outcome dryRun world).world⟩ := by
  unfold run
  rw [bind_attempt]
  cases (task.outcome dryRun world).result with
  | ok outcome => simp [told]
  | error fault => cases fault <;> simp [told]

theorem calls_run (task : Task) (dryRun : Bool) (world : World) :
    (task.run dryRun world).calls = (task.outcome dryRun world).calls := by
  rw [run_apply]
  rfl

theorem mem_calls_run {task : Task} {dryRun : Bool} {world : World} {q : Request}
    (h : q ∈ (task.run dryRun world).calls) : task.Sends world q := by
  rw [calls_run] at h
  cases hfile : task.uploadFile with
  | some upload =>
    rw [outcome_of_upload hfile, calls_mapError] at h
    exact .upload hfile (mem_calls_runUpload h)
  | none =>
    rw [outcome_of_message hfile] at h
    exact mem_calls_runMessage hfile h

end Task

end SlackCourier
