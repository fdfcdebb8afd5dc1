import SlackCourier.Proofs.File.Containment
import SlackCourier.Proofs.Server.Serving

/-!
# Uploads stay in their directory

The bytes that go out for a request are those of a file that stood strictly below the directory for
uploads when the request came in.  The check and the reading are apart, with answers between them
that may remove files; it is enough that nothing appears in the meantime.
-/

namespace SlackCourier

theorem Task.Sends.read_of_bytes {task : Task} {world : World} {q : Request}
    {content : Text.Bytes} (h : task.Sends world q) (hbody : q.body = some (.bytes content)) :
    ∃ upload later n, task.uploadFile = some upload ∧ world.Later later n ∧
      later.tree.read later.directory upload.path = .ok content := by
  cases h with
  | lookup => simp [Message.lookupRequest] at hbody
  | message => simp [Message.requestTo] at hbody
  | @upload upload _ hupload hsends =>
    cases hsends with
    | start => simp [Upload.startRequest] at hbody
    | page => simp [Channel.pageRequest] at hbody
    | completion => simp [Upload.completionRequest] at hbody
    | @bytes _ _ later n read _ _ hlater hread =>
      simp only [Upload.bytesRequest, Option.some.injEq, Body.bytes.injEq] at hbody
      rw [← hbody]
      exact ⟨upload, later, n, hupload, hlater, hread⟩

namespace Server

theorem contained_of_confines {settings : Settings} {world later : World} {n : Nat}
    {asked task : Task} {upload : Upload} {content : Text.Bytes}
    (hdir : File.IsPath world.directory) (hconfines : Confines settings world asked task)
    (hupload : task.uploadFile = some upload) (hlater : world.Later later n)
    (hread : later.tree.read later.directory upload.path = .ok content) :
    ∃ root base path, settings.uploadDirectory = some root ∧
      File.IsBase world.tree world.directory root base ∧ File.IsStrictlyBelow base path ∧
        world.tree.canonical path = .ok path ∧ world.tree.node? path = some (.file content) := by
  cases hconfines with
  | message hnone =>
    rw [hnone] at hupload
    cases hupload
  | @upload given root path _ hroot hpath =>
    simp only [withPath, Option.some.injEq] at hupload
    rw [← hupload, hlater.directory] at hread
    obtain ⟨hdirect, hnode, hbelow⟩ := File.read_of_uploadPath hlater.tree hdir hpath hread
    exact ⟨root, _, path, hroot, File.isBase_rootPath .., hbelow, hdirect.canonical_eq, hnode⟩

/-- A task with a file is turned away when there is no directory for uploads, before anything is
looked at. -/
theorem serve_of_uploads_disabled {settings : Settings} {r : Inbound} {task : Task}
    (hroot : settings.uploadDirectory = none) (hroute : r.route = .task)
    (hadmitted : Admitted settings r) (htask : taskIn settings r.body = .ok task)
    (hupload : task.uploadFile ≠ none) (world : World) :
    serve settings r world =
      ⟨.ok ((Answer.denied .uploadsDisabled).reply settings r), [], world⟩ := by
  obtain ⟨upload, hupload⟩ := Option.ne_none_iff_exists'.1 hupload
  have hdenied : taskFor settings r = Session.fail .uploadsDisabled := by
    rw [taskFor_of_ok (gate_eq_ok_iff.2 hadmitted) htask]
    exact confine_of_uploads_disabled hupload hroot
  rw [serve_of_taskFor_error hroute (by rw [hdenied]; rfl), hdenied]
  rfl

/-- Bytes that go out are the content of a regular file strictly below the directory for uploads,
every link followed; without such a directory no task with a file is run.  Of the working directory
only what holds of every absolute path is asked. -/
theorem uploads_contained (settings : Settings) (r : Inbound) (world : World)
    (hdir : File.IsPath world.directory) :
    (∀ q ∈ (serve settings r world).calls, ∀ content, q.body = some (.bytes content) →
      ∃ root base path, settings.uploadDirectory = some root ∧
        File.IsBase world.tree world.directory root base ∧ File.IsStrictlyBelow base path ∧
          world.tree.canonical path = .ok path ∧
            world.tree.node? path = some (.file content)) ∧
    (settings.uploadDirectory = none → r.route = .task → Admitted settings r →
      ∀ task, taskIn settings r.body = .ok task → task.uploadFile ≠ none →
        (serve settings r world).trace = [] ∧
          ∃ reply, (serve settings r world).result = .ok reply ∧ reply.status = 403) := by
  constructor
  · intro q hq content hbody
    obtain ⟨-, -, asked, task, -, hconfines, hsends⟩ := mem_calls_serve hq
    obtain ⟨upload, later, n, hupload, hlater, hread⟩ := hsends.read_of_bytes hbody
    exact contained_of_confines hdir hconfines hupload hlater hread
  · intro hroot hroute hadmitted task htask hupload
    rw [serve_of_uploads_disabled hroot hroute hadmitted htask hupload]
    exact ⟨rfl, _, rfl, rfl⟩

namespace Sample

/-- A directory for uploads with one file in it and a link to the file. -/
def uploadWorld : World :=
  { script := [turn [("ok", .bool true), ("upload_url", .string "https://files.example"),
      ("file_id", .string "F")]]
    tree := ⟨[(["srv"], .directory), (["srv", "a"], .file [104, 105]),
      (["srv", "l"], .link "a")]⟩
    directory := ["srv"] }

def uploading : Inbound :=
  posting [("token", .string "xoxb-1"), ("channel", .string "c"),
    ("uploadFile", .object [("path", .string "../srv/l")])]

end Sample

/-- The bytes of a file that is asked for through a link are those of the file it leads to. -/
theorem uploads_contained_through_link :
    File.IsPath Sample.uploadWorld.directory ∧
    Upload.bytesRequest ⟨"https://files.example", "F"⟩ [104, 105] false ∈
      (serve (Sample.settings none none (some "/srv")) Sample.uploading Sample.uploadWorld).calls ∧
    ∃ root base path, some ("/srv" : Text) = some root ∧
      File.IsBase Sample.uploadWorld.tree Sample.uploadWorld.directory root base ∧
        File.IsStrictlyBelow base path ∧
          Sample.uploadWorld.tree.canonical path = .ok path ∧
            Sample.uploadWorld.tree.node? path = some (.file [104, 105]) := by
  have hdir : File.IsPath Sample.uploadWorld.directory := by decide
  have hposted : Upload.bytesRequest ⟨"https://files.example", "F"⟩ [104, 105] false ∈
      (serve (Sample.settings none none (some "/srv")) Sample.uploading
        Sample.uploadWorld).calls := by decide +kernel
  exact ⟨hdir, hposted, (uploads_contained _ _ _ hdir).1 _ hposted _ rfl⟩

end Server

end SlackCourier
