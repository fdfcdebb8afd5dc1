import SlackCourier.Proofs.Server.Gate
import SlackCourier.Proofs.Task.Requests

/-!
# What serving a request comes to

Every request that goes out while the server serves is one of a task: the one in the body of an
admitted request, with its file confined.
-/

namespace SlackCourier.Server

open Session

/-- Whether a task may be run for the task that was asked for: it is the same, or its file has been
given the path that was found for it in the directory for uploads. -/
inductive Confines (settings : Settings) (world : World) (asked : Task) : Task → Prop
  | message : asked.uploadFile = none → Confines settings world asked asked
  | upload {upload : Upload} {root : Text} {path : File.Path} : asked.uploadFile = some upload →
      settings.uploadDirectory = some root →
      File.uploadPath world.tree world.directory root upload.path = some path →
      Confines settings world asked (withPath asked upload (File.render path))

theorem confine_of_uploads_disabled {settings : Settings} {asked : Task} {upload : Upload}
    (hupload : asked.uploadFile = some upload) (hroot : settings.uploadDirectory = none) :
    confine settings asked = Session.fail .uploadsDisabled := by
  simp [confine, hupload, hroot]

theorem confine_of_upload {settings : Settings} {asked : Task} {upload : Upload} {root : Text}
    (hupload : asked.uploadFile = some upload) (hroot : settings.uploadDirectory = some root)
    (world : World) :
    confine settings asked world =
      ⟨match File.uploadPath world.tree world.directory root upload.path with
        | some path => .ok (withPath asked upload (File.render path))
        | none => .error .uploadOutside, [.look upload.path], world⟩ := by
  have hlook : (look upload.path (fun tree directory =>
      File.uploadPath tree directory root upload.path) world : Ending Denial _).result =
        .ok (File.uploadPath world.tree world.directory root upload.path) := rfl
  simp only [confine, hupload, hroot]
  rw [bind_ok hlook]
  cases File.uploadPath world.tree world.directory root upload.path <;> rfl

theorem confine_spec (settings : Settings) (asked : Task) (world : World) :
    (confine settings asked world).calls = [] ∧ (confine settings asked world).world = world ∧
      ∀ task, (confine settings asked world).result = .ok task →
        Confines settings world asked task := by
  cases hupload : asked.uploadFile with
  | none =>
    have hconfine : confine settings asked = Pure.pure asked := by simp [confine, hupload]
    rw [hconfine]
    refine ⟨rfl, rfl, fun task htask => ?_⟩
    rw [← Except.ok.inj htask]
    exact .message hupload
  | some upload =>
    cases hroot : settings.uploadDirectory with
    | none =>
      rw [confine_of_uploads_disabled hupload hroot]
      exact ⟨rfl, rfl, fun task htask => by cases htask⟩
    | some root =>
      rw [confine_of_upload hupload hroot]
      refine ⟨rfl, rfl, fun task htask => ?_⟩
      cases hpath : File.uploadPath world.tree world.directory root upload.path with
      | none => simp [hpath] at htask
      | some path =>
        simp only [hpath, Except.ok.injEq] at htask
        rw [← htask]
        exact .upload hupload hroot hpath

theorem taskFor_of_ok {settings : Settings} {r : Inbound} {asked : Task}
    (hgate : gate settings r = .ok ()) (htask : taskIn settings r.body = .ok asked) :
    taskFor settings r = confine settings asked := by
  unfold taskFor
  rw [hgate, htask]
  rfl

theorem taskFor_of_error {settings : Settings} {r : Inbound} {denial : Denial}
    (hgate : gate settings r = .ok ()) (htask : taskIn settings r.body = .error denial) :
    taskFor settings r = Session.fail denial := by
  unfold taskFor
  rw [hgate, htask]
  rfl

theorem content_reply {settings : Settings} {r : Inbound} (hhead : r.isHead = false)
    {answer : Answer} : (answer.reply settings r).content = answer.content settings.mode := by
  simp [Answer.reply, hhead]

theorem calls_serve_of_task {settings : Settings} {r : Inbound} (hroute : r.route = .task)
    (world : World) : (serve settings r world).calls = (runTask settings r world).calls := by
  cases hrun : (runTask settings r world).result with
  | ok answer =>
    rw [serve_of_runTask hroute hrun]
    rfl
  | error impossible => cases impossible

theorem mem_calls_serve {settings : Settings} {r : Inbound} {world : World} {q : Request}
    (h : q ∈ (serve settings r world).calls) :
    r.route = .task ∧ Admitted settings r ∧ ∃ asked task, taskIn settings r.body = .ok asked ∧
      Confines settings world asked task ∧ task.Sends world q := by
  have htrace : (serve settings r world).trace ≠ [] := by
    intro hnil
    unfold Ending.calls at h
    rw [hnil] at h
    cases h
  obtain ⟨hroute, hadmitted⟩ := trace_serve htrace
  have hgate := gate_eq_ok_iff.2 hadmitted
  refine ⟨hroute, hadmitted, ?_⟩
  rw [calls_serve_of_task hroute] at h
  unfold runTask at h
  cases htask : taskIn settings r.body with
  | error denial =>
    rw [taskFor_of_error hgate htask] at h
    rcases mem_calls_bind h with h | ⟨tried, htried, h⟩
    · simp at h
    · cases htried
      simp at h
  | ok asked =>
    obtain ⟨hcalls, hworld, hconfined⟩ := confine_spec settings asked world
    rw [taskFor_of_ok hgate htask] at h
    rcases mem_calls_bind h with h | ⟨tried, htried, h⟩
    · rw [calls_attempt, hcalls] at h
      cases h
    have hresult : (confine settings asked world).result = tried := by simpa using htried
    rw [attempt_apply, hworld] at h
    cases tried with
    | error denial => simp at h
    | ok task =>
      rcases mem_calls_bind h with h | ⟨ran, -, h⟩
      · rw [calls_attempt] at h
        exact ⟨asked, task, rfl, hconfined task hresult, Task.mem_calls_run h⟩
      · cases ran <;> simp at h

namespace Sample

def key : Text := "0123456789abcdef"

def settings (token domain uploadDirectory : Option Text) : Settings :=
  { listenAt := Settings.defaultListenAt, mode := .test, logLevel := .silent, token := token
    domain := domain, allowedOrigins := Settings.defaultOrigins, apiKey := some key
    uploadDirectory := uploadDirectory }

def posting (record : Members) : Inbound :=
  { method := "POST", address := ⟨Inbound.taskPath, ""⟩
    headers := [("Authorization", keyStart ++ key)], body := some (Json.object record).compact }

def turn (answer : Members) : Turn :=
  ⟨[], .response ⟨okStatus, "OK", .text (Json.object answer).compact⟩⟩

theorem admitted_posting (token domain uploadDirectory : Option Text) (record : Members) :
    Admitted (settings token domain uploadDirectory) (posting record) := by
  have hheader : (posting record).header? "Authorization" =
      (posting []).header? "Authorization" := rfl
  refine ⟨key, key, rfl, ?_, rfl⟩
  rw [hheader]
  decide

end Sample

end SlackCourier.Server
