import SlackCourier.Proofs.Server.Serving

/-!
# Requests for which no task is run

A request runs a task, or it is answered at once.  In the second case nothing is sent, no answer of
the script is used up, and the surroundings are left as they were.  So such requests can be taken
out of a run, any number of them at any place, and every other request is served as before.
-/

namespace SlackCourier.Server

open Session

/-- Whether a request gets as far as a task that is run, in the surroundings that it meets. -/
def Runs (settings : Settings) (world : World) (r : Inbound) : Prop :=
  r.route = .task ∧ ∃ task, (taskFor settings r world).result = .ok task

/-- The replies that tell of no task: leave to call, the state of the server, an unknown path, and
every denial. -/
inductive Idle (settings : Settings) (r : Inbound) : Reply → Prop
  | preflight : Idle settings r (preflightReply settings r)
  | health : Idle settings r (Answer.healthy.reply settings r)
  | notFound : Idle settings r (Answer.notFound.reply settings r)
  | denied (denial : Denial) : Idle settings r ((Answer.denied denial).reply settings r)

section

variable {settings : Settings} {r : Inbound} {world : World} {reply : Reply}

theorem Idle.status_ne (h : Idle settings r reply) : reply.status ≠ 500 := by
  cases h with
  | preflight | health | notFound => simp [preflightReply, Answer.reply, Answer.status]
  | denied denial => cases denial <;> simp [Answer.reply, Answer.status, Denial.status]

theorem Idle.content_ne (h : Idle settings r reply) (hhead : r.isHead = false) (report : Report) :
    reply.content ≠ .json report.toJson := by
  have hnames : ("status" : Text) ≠ "ok" ∧ ("error" : Text) ≠ "ok" := by decide
  intro hcontent
  cases h with
  | preflight | notFound => simp [preflightReply, Answer.reply, Answer.content, hhead] at hcontent
  | health =>
    simp [Answer.reply, Answer.content, hhead, Report.toJson, Report.members, hnames] at hcontent
  | denied denial =>
    simp [Answer.reply, Answer.content, hhead, Report.toJson, Report.members, Denial.members,
      hnames] at hcontent

theorem taskFor_inert (settings : Settings) (r : Inbound) (world : World) :
    (taskFor settings r world).calls = [] ∧ (taskFor settings r world).world = world := by
  cases hgate : gate settings r with
  | error denial =>
    rw [taskFor_of_gate_error hgate]
    exact ⟨rfl, rfl⟩
  | ok _ =>
    cases hasked : taskIn settings r.body with
    | error denial =>
      rw [taskFor_of_error hgate hasked]
      exact ⟨rfl, rfl⟩
    | ok asked =>
      rw [taskFor_of_ok hgate hasked]
      obtain ⟨hcalls, hworld, -⟩ := confine_spec settings asked world
      exact ⟨hcalls, hworld⟩

theorem result_runTask_of_task {task : Task}
    (h : (taskFor settings r world).result = .ok task) :
    (∃ report, (runTask settings r world).result = .ok (.reported report)) ∨
      ∃ mishap, (runTask settings r world).result = .ok (.crashed mishap) := by
  unfold runTask
  rw [bind_attempt, h, (taskFor_inert settings r world).2]
  dsimp only
  rw [bind_attempt]
  cases (task.run r.isDryRun world).result with
  | ok report => exact Or.inl ⟨report, rfl⟩
  | error mishap => exact Or.inr ⟨mishap, rfl⟩

theorem serve_of_not_runs (h : ¬ Runs settings world r) :
    (serve settings r world).calls = [] ∧ (serve settings r world).world = world ∧
      ∃ reply, (serve settings r world).result = .ok reply ∧ Idle settings r reply := by
  cases hroute : r.route with
  | preflight =>
    simp only [serve, hroute]
    exact ⟨rfl, rfl, _, rfl, .preflight⟩
  | health =>
    simp only [serve, hroute]
    exact ⟨rfl, rfl, _, rfl, .health⟩
  | missing =>
    simp only [serve, hroute]
    exact ⟨rfl, rfl, _, rfl, .notFound⟩
  | missingTask =>
    simp only [serve, hroute]
    refine ⟨rfl, rfl, _, rfl, ?_⟩
    cases gate settings r with
    | ok _ => exact .notFound
    | error denial => exact .denied denial
  | task =>
    cases htask : (taskFor settings r world).result with
    | ok task => exact absurd ⟨hroute, task, htask⟩ h
    | error denial =>
      obtain ⟨hcalls, hworld⟩ := taskFor_inert settings r world
      rw [serve_of_taskFor_error hroute htask]
      exact ⟨hcalls, hworld, _, rfl, .denied denial⟩

theorem reply_of_runs (h : Runs settings world r) :
    ∃ reply, (serve settings r world).result = .ok reply ∧ ¬ Idle settings r reply := by
  obtain ⟨hroute, task, htask⟩ := h
  have hhead : r.isHead = false := by
    obtain ⟨hmethod, -⟩ := (Inbound.route_eq_task_iff r).1 hroute
    simp [Inbound.isHead, hmethod]
  rcases result_runTask_of_task htask with ⟨report, hran⟩ | ⟨mishap, hran⟩
  · rw [serve_of_runTask hroute hran]
    exact ⟨_, rfl, fun hidle => hidle.content_ne hhead report (content_reply hhead)⟩
  · rw [serve_of_runTask hroute hran]
    exact ⟨_, rfl, fun hidle => hidle.status_ne rfl⟩

theorem not_runs_iff : ¬ Runs settings world r ↔
    ∃ reply, (serve settings r world).result = .ok reply ∧ Idle settings r reply := by
  constructor
  · exact fun h => (serve_of_not_runs h).2.2
  · rintro ⟨reply, hreply, hidle⟩ hruns
    obtain ⟨other, hother, hbusy⟩ := reply_of_runs hruns
    rw [hreply] at hother
    exact hbusy (Except.ok.inj hother ▸ hidle)

end

/-- The requests of a run, each with the surroundings that it meets. -/
def situated (settings : Settings) (world : World) : List Inbound → List (Inbound × World)
  | [] => []
  | r :: rest => (r, world) :: situated settings (serve settings r world).world rest

theorem serveAll_eq_map_situated (settings : Settings) (world : World)
    (requests : List Inbound) : serveAll settings world requests =
      (situated settings world requests).map fun entry => serve settings entry.1 entry.2 := by
  induction requests generalizing world with
  | nil => rfl
  | cons r rest ih => simp [serveAll, situated, ih]

/-- A list without the items at some places, counted from zero. -/
def without {α : Type} (gone : Nat → Bool) : List α → List α
  | [] => []
  | a :: rest =>
    if gone 0 then without (fun n => gone (n + 1)) rest
    else a :: without (fun n => gone (n + 1)) rest

theorem serveAll_without {settings : Settings} {world : World} {requests : List Inbound}
    {gone : Nat → Bool} (h : ∀ n entry, gone n = true →
      (situated settings world requests)[n]? = some entry → ¬ Runs settings entry.2 entry.1) :
    serveAll settings world (without gone requests) =
      without gone (serveAll settings world requests) := by
  induction requests generalizing world gone with
  | nil => rfl
  | cons r rest ih =>
    let later : Nat → Bool := fun n => gone (n + 1)
    have hrest : serveAll settings (serve settings r world).world (without later rest) =
        without later (serveAll settings (serve settings r world).world rest) :=
      ih fun n entry hgone hentry => h (n + 1) entry hgone hentry
    by_cases hgone : gone 0 = true
    · have hinert : (serve settings r world).world = world :=
        (serve_of_not_runs (h 0 (r, world) hgone rfl)).2.1
      rw [hinert] at hrest
      simp only [without, hgone, if_true, serveAll, hinert]
      exact hrest
    · simp only [without, hgone, serveAll]
      exact congrArg (serve settings r world :: ·) hrest

/-- Whatever is asked of the server, a request is answered without running a task exactly if its
reply is idle.  It then sends nothing, uses up no answer and leaves everything as it was; and taking
any such requests out of a run leaves the reply and the doings of every other one as they were. -/
theorem refused_requests_inert (settings : Settings) (world : World) (requests : List Inbound) :
    (∀ entry ∈ situated settings world requests,
      let ending := serve settings entry.1 entry.2
      (¬ Runs settings entry.2 entry.1 ↔
        ∃ reply, ending.result = .ok reply ∧ Idle settings entry.1 reply) ∧
      (¬ Runs settings entry.2 entry.1 → ending.calls = [] ∧
        ending.world.script = entry.2.script ∧ ending.world = entry.2)) ∧
    serveAll settings world requests =
      (situated settings world requests).map (fun entry => serve settings entry.1 entry.2) ∧
    ∀ gone : Nat → Bool, (∀ n entry, gone n = true →
        (situated settings world requests)[n]? = some entry → ¬ Runs settings entry.2 entry.1) →
      serveAll settings world (without gone requests) =
        without gone (serveAll settings world requests) := by
  refine ⟨fun entry _ => ⟨not_runs_iff, fun hidle => ?_⟩, serveAll_eq_map_situated .., ?_⟩
  · obtain ⟨hcalls, hworld, -⟩ := serve_of_not_runs hidle
    exact ⟨hcalls, by rw [hworld], hworld⟩
  · exact fun gone hgone => serveAll_without hgone

end SlackCourier.Server
