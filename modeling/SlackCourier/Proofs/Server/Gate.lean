import SlackCourier.Proofs.Exchange.Course
import SlackCourier.Proofs.Text.Pieces
import SlackCourier.Server.Serve

/-!
# The gate over whole runs

The gate is a judgement about a request: it comes with a key whose digest is that of the key that is
set up.  Nothing is sent and no file is looked at for a request that does not pass it, and the
answer to such a request is made of the settings of the gate, the origin and the head of the request
alone.
-/

namespace SlackCourier.Server

open Session

def Admitted (settings : Settings) (r : Inbound) : Prop :=
  ∃ expected key : Text, settings.apiKey = some expected ∧
    r.header? "Authorization" = some ("Bearer " ++ key) ∧
      Hash.sha256 (Text.encodeUtf8 key) = Hash.sha256 (Text.encodeUtf8 expected)

@[simp] theorem keyIn?_eq_some_iff {value key : Text} :
    keyIn? value = some key ↔ value = keyStart ++ key := by
  unfold keyIn?
  constructor
  · intro h
    split_ifs at h with hstart
    obtain ⟨rest, rfl⟩ := Text.startsWith_iff.1 hstart
    rw [Text.drop_append, Option.some.injEq] at h
    rw [h]
  · rintro rfl
    rw [if_pos (Text.startsWith_iff.2 ⟨key, rfl⟩), Text.drop_append]

theorem gate_eq_ok_iff {settings : Settings} {r : Inbound} :
    gate settings r = .ok () ↔ Admitted settings r := by
  have hadmitted : Admitted settings r ↔ ∃ expected key, settings.apiKey = some expected ∧
      r.header? "Authorization" = some (keyStart ++ key) ∧
        keyDigest key = keyDigest expected := Iff.rfl
  rw [hadmitted]
  unfold gate
  cases hkey : settings.apiKey with
  | none => simp
  | some expected =>
    cases hgiven : (r.header? "Authorization").bind keyIn? with
    | none =>
      simp only [reduceCtorEq, false_iff]
      rintro ⟨_, key, -, hheader, -⟩
      rw [hheader, Option.bind_some, keyIn?_eq_some_iff.2 rfl] at hgiven
      cases hgiven
    | some key =>
      obtain ⟨value, hheader, hvalue⟩ := Option.bind_eq_some_iff.1 hgiven
      rw [keyIn?_eq_some_iff] at hvalue
      subst hvalue
      simp only [hheader, Option.some.injEq, exists_and_left, exists_eq_left']
      constructor
      · intro h
        split_ifs at h with hdigest
        exact ⟨key, rfl, hdigest⟩
      · rintro ⟨given, hsame, hdigest⟩
        have hgiven : given = key := by
          have hkeys := congrArg keyIn? hsame
          rw [keyIn?_eq_some_iff.2 rfl, keyIn?_eq_some_iff.2 rfl, Option.some.injEq] at hkeys
          exact hkeys.symm
        rw [← hgiven, if_pos hdigest]

/-- What the gate says depends on the key that is set up and on the header that brings one. -/
theorem gate_congr {settings other : Settings} {r s : Inbound}
    (hkey : settings.apiKey = other.apiKey)
    (hheader : r.header? "Authorization" = s.header? "Authorization") :
    gate settings r = gate other s := by
  unfold gate
  rw [hkey, hheader]

theorem gate_of_not_admitted {settings : Settings} {r : Inbound} (h : ¬ Admitted settings r) :
    ∃ denial, gate settings r = .error denial := by
  cases hgate : gate settings r with
  | ok _ => exact absurd (gate_eq_ok_iff.1 hgate) h
  | error denial => exact ⟨denial, rfl⟩

theorem status_of_gate {settings : Settings} {r : Inbound} {denial : Denial}
    (h : gate settings r = .error denial) :
    denial.status = if settings.apiKey = none then 503 else 401 := by
  unfold gate at h
  cases hkey : settings.apiKey with
  | none =>
    simp only [hkey, Except.error.injEq] at h
    simp [← h, Denial.status]
  | some expected =>
    simp only [hkey] at h
    split at h
    · rw [← Except.error.inj h]
      rfl
    · split_ifs at h
      rw [← Except.error.inj h]
      rfl

theorem route_of_guarded {r : Inbound} (hmethod : r.method ≠ "OPTIONS")
    (hpath : r.address.path.head? = some Inbound.guardedStart) :
    r.route = .task ∨ r.route = .missingTask := by
  have hhealth : r.address.path ≠ Inbound.healthPath := by
    intro h
    rw [h] at hpath
    exact absurd hpath (by decide)
  unfold Inbound.route
  by_cases htask : r.verb = "POST" ∧ r.address.path = Inbound.taskPath
  · simp [hmethod, htask]
  · simp [hmethod, hhealth, htask, hpath]

theorem taskFor_of_gate_error {settings : Settings} {r : Inbound} {denial : Denial}
    (h : gate settings r = .error denial) : taskFor settings r = Session.fail denial := by
  unfold taskFor
  rw [h, lift_error, fail_bind]

theorem serve_of_runTask {settings : Settings} {r : Inbound} {world : World} {answer : Answer}
    (hroute : r.route = .task) (h : (runTask settings r world).result = .ok answer) :
    serve settings r world = ⟨.ok (answer.reply settings r), (runTask settings r world).trace,
      (runTask settings r world).world⟩ := by
  unfold serve
  simp only [hroute]
  rw [bind_ok h]
  simp

theorem serve_of_taskFor_error {settings : Settings} {r : Inbound} {world : World}
    {denial : Denial} (hroute : r.route = .task)
    (h : (taskFor settings r world).result = .error denial) :
    serve settings r world = ⟨.ok ((Answer.denied denial).reply settings r),
      (taskFor settings r world).trace, (taskFor settings r world).world⟩ := by
  have hrun : runTask settings r world =
      ⟨.ok (.denied denial), (taskFor settings r world).trace,
        (taskFor settings r world).world⟩ := by
    unfold runTask
    rw [bind_attempt, h]
    simp
  rw [serve_of_runTask hroute (by rw [hrun]), hrun]

theorem serve_of_gate_error {settings : Settings} {r : Inbound} {denial : Denial}
    (hroute : r.route = .task ∨ r.route = .missingTask) (h : gate settings r = .error denial)
    (world : World) :
    serve settings r world = ⟨.ok ((Answer.denied denial).reply settings r), [], world⟩ := by
  rcases hroute with hroute | hroute
  · have htask := taskFor_of_gate_error h
    rw [serve_of_taskFor_error hroute (by rw [htask]; rfl), htask]
    rfl
  · simp only [serve, hroute, h]
    rfl

theorem trace_serve {settings : Settings} {r : Inbound} {world : World}
    (h : (serve settings r world).trace ≠ []) : r.route = .task ∧ Admitted settings r := by
  have hroute : r.route = .task := by
    unfold serve at h
    cases hr : r.route with
    | task => rfl
    | preflight | health | missing | missingTask => simp [hr] at h
  refine ⟨hroute, Classical.byContradiction fun hclosed => ?_⟩
  obtain ⟨denial, hgate⟩ := gate_of_not_admitted hclosed
  rw [serve_of_gate_error (Or.inl hroute) hgate] at h
  exact h rfl

/-- The requests of a run, each with how it ended. -/
def served (settings : Settings) (world : World) (requests : List Inbound) :
    List (Inbound × Ending Empty Reply) := requests.zip (serveAll settings world requests)

theorem exists_of_mem_served {settings : Settings} {world : World} {requests : List Inbound}
    {entry : Inbound × Ending Empty Reply} (h : entry ∈ served settings world requests) :
    ∃ around, entry.2 = serve settings entry.1 around := by
  unfold served at h
  induction requests generalizing world with
  | nil => simp at h
  | cons r rest ih =>
    rw [serveAll, List.zip_cons_cons] at h
    rcases List.mem_cons.mp h with rfl | h
    · exact ⟨world, rfl⟩
    · exact ih h

def Inbound.IsGuarded (r : Inbound) : Prop :=
  r.method ≠ "OPTIONS" ∧ r.address.path.head? = some "tasks"

/-- Whether two settings are the same to whoever does not pass the gate. -/
structure Settings.SameOutside (settings other : Settings) : Prop where
  apiKey : settings.apiKey = other.apiKey
  allowedOrigins : settings.allowedOrigins = other.allowedOrigins

/-- Whether two requests agree in their method, path, origin and authorization. -/
structure Inbound.SameOutside (r s : Inbound) : Prop where
  method : r.method = s.method
  path : r.address.path = s.address.path
  origin : r.header? "Origin" = s.header? "Origin"
  authorization : r.header? "Authorization" = s.header? "Authorization"

theorem Inbound.SameOutside.isGuarded {r s : Inbound} (h : r.SameOutside s) (hr : r.IsGuarded) :
    s.IsGuarded := by
  unfold IsGuarded at hr ⊢
  rw [← h.method, ← h.path]
  exact hr

/-- The answer to a denied request is the same for requests and settings that are the same
outside. -/
theorem reply_denied_congr {settings other : Settings} {r s : Inbound}
    (hsettings : settings.SameOutside other) (hrequest : r.SameOutside s) (denial : Denial) :
    (Answer.denied denial).reply settings r = (Answer.denied denial).reply other s := by
  have horigins : settings.origins = other.origins := by
    unfold Settings.origins
    rw [hsettings.allowedOrigins]
  have horigin : originHeader settings r = originHeader other s := by
    unfold originHeader
    rw [hrequest.origin, horigins]
  have hhead : r.isHead = s.isHead := by
    unfold Inbound.isHead
    rw [hrequest.method]
  unfold Answer.reply
  rw [horigin, hhead]
  rfl

theorem admitted_of_mem_served {settings : Settings} {world : World} {requests : List Inbound}
    {entry : Inbound × Ending Empty Reply} (h : entry ∈ served settings world requests)
    (htrace : entry.2.trace ≠ []) :
    entry.1.method = "POST" ∧ entry.1.address.path = Inbound.taskPath ∧
      Admitted settings entry.1 := by
  obtain ⟨around, hserve⟩ := exists_of_mem_served h
  rw [hserve] at htrace
  obtain ⟨hroute, hadmitted⟩ := trace_serve htrace
  obtain ⟨hmethod, hpath⟩ := (Inbound.route_eq_task_iff entry.1).1 hroute
  exact ⟨hmethod, hpath, hadmitted⟩

/-- A guarded request that is not admitted ends with what the gate says, wherever it stands in a
run. -/
theorem ending_of_mem_served {settings : Settings} {world : World} {requests : List Inbound}
    {entry : Inbound × Ending Empty Reply} {denial : Denial}
    (h : entry ∈ served settings world requests) (hguarded : entry.1.IsGuarded)
    (hgate : gate settings entry.1 = .error denial) :
    entry.2.trace = [] ∧ entry.2.result = .ok ((Answer.denied denial).reply settings entry.1) := by
  obtain ⟨around, hserve⟩ := exists_of_mem_served h
  rw [hserve, serve_of_gate_error (route_of_guarded hguarded.1 hguarded.2) hgate]
  exact ⟨rfl, rfl⟩

/-- In every run, something is done only for requests for a task that come with the right key; every
other request to the guarded part is turned away, in a way that does not depend on anything behind
the gate. -/
theorem served_behind_gate (settings : Settings) (world : World) (requests : List Inbound) :
    (∀ entry ∈ served settings world requests, entry.2.trace ≠ [] →
      entry.1.method = "POST" ∧ entry.1.address.path = (["tasks", "slack"] : List Text) ∧
        Admitted settings entry.1) ∧
    (∀ entry ∈ served settings world requests, entry.1.IsGuarded → ¬ Admitted settings entry.1 →
      entry.2.trace = [] ∧ ∃ reply, entry.2.result = .ok reply ∧
        reply.status = if settings.apiKey = none then 503 else 401) ∧
    ∀ (other : Settings) (elsewhere : World) (others : List Inbound), settings.SameOutside other →
      ∀ entry ∈ served settings world requests, ∀ twin ∈ served other elsewhere others,
        entry.1.IsGuarded → ¬ Admitted settings entry.1 → entry.1.SameOutside twin.1 →
          entry.2.result = twin.2.result := by
  refine ⟨fun entry hentry => admitted_of_mem_served hentry, ?_, ?_⟩
  · intro entry hentry hguarded hclosed
    obtain ⟨denial, hgate⟩ := gate_of_not_admitted hclosed
    obtain ⟨htrace, hresult⟩ := ending_of_mem_served hentry hguarded hgate
    exact ⟨htrace, _, hresult, status_of_gate hgate⟩
  · intro other elsewhere others hsettings entry hentry twin htwin hguarded hclosed hsame
    obtain ⟨denial, hgate⟩ := gate_of_not_admitted hclosed
    have hgateTwin : gate other twin.1 = .error denial := by
      rw [← gate_congr hsettings.apiKey hsame.authorization]
      exact hgate
    obtain ⟨-, hresult⟩ := ending_of_mem_served hentry hguarded hgate
    obtain ⟨-, hresultTwin⟩ := ending_of_mem_served htwin (hsame.isGuarded hguarded) hgateTwin
    rw [hresult, hresultTwin, reply_denied_congr hsettings hsame]

end SlackCourier.Server
