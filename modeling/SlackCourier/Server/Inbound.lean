import SlackCourier.Server.Flaw

/-!
# Requests to the server

A request as it reaches the server.  Header names are told apart without regard to case, a header
given several times has its values joined, and blanks around a value do not count.  A request for
the head of an answer is treated as one for the answer itself until the answer is written.
-/

namespace SlackCourier.Server

/-- A request to the server. -/
structure Inbound where
  method : Text
  address : Address
  /-- The headers, each with its name and value as given. -/
  headers : List (Text × Text)
  body : Option Text
  deriving DecidableEq, Repr

inductive Route where
  | preflight
  | health
  | task
  | missingTask
  | missing
  deriving DecidableEq, Repr

namespace Inbound

/-- The request that texts make, or the flaw that leaves none. -/
def ofTexts (method target : Text) (headers : List (Text × Text)) (body : Option Text) :
    Except Flaw Inbound :=
  match Flaw.first? method target headers body with
  | some flaw => .error flaw
  | none => .ok ⟨methodOf method, Address.ofTarget target, Flaw.counted headers, body⟩

def header? (r : Inbound) (name : Text) : Option Text :=
  let values := (r.headers.filter fun (key, _) => lowerCase key == lowerCase name).map
    fun (_, value) => Text.trimBy Text.isHeaderBlank value
  if values = [] then none else some (Text.join ", " values)

def isHead (r : Inbound) : Bool := r.method == "HEAD"

def verb (r : Inbound) : Text := if r.isHead then "GET" else r.method

def healthPath : List Text := ["health"]

def taskPath : List Text := ["tasks", "slack"]

def guardedStart : Text := "tasks"

def route (r : Inbound) : Route :=
  if r.method = "OPTIONS" then .preflight
  else if r.verb = "GET" ∧ r.address.path = healthPath then .health
  else if r.verb = "POST" ∧ r.address.path = taskPath then .task
  else if r.address.path.head? = some guardedStart then .missingTask
  else .missing

def isDryRun (r : Inbound) : Bool := r.address.value? "dryRun" == some "true"

theorem verb_eq_post_iff (r : Inbound) : r.verb = "POST" ↔ r.method = "POST" := by
  unfold verb isHead
  by_cases h : r.method = "HEAD" <;> simp [h]

theorem route_eq_task_iff (r : Inbound) :
    r.route = .task ↔ r.method = "POST" ∧ r.address.path = taskPath := by
  rw [← verb_eq_post_iff]
  constructor
  · intro h
    unfold route at h
    by_cases hopt : r.method = "OPTIONS"
    · simp [hopt] at h
    · by_cases hget : r.verb = "GET" ∧ r.address.path = healthPath
      · simp [hopt, hget] at h
      · by_cases hpost : r.verb = "POST" ∧ r.address.path = taskPath
        · exact hpost
        · rw [if_neg hopt, if_neg hget, if_neg hpost] at h
          by_cases hpath : r.address.path.head? = some guardedStart <;> simp [hpath] at h
  · rintro ⟨hverb, hpath⟩
    have hmethod := (verb_eq_post_iff r).1 hverb
    simp [route, hmethod, hverb, hpath]

end Inbound

end SlackCourier.Server
