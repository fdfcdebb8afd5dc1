import SlackCourier.Exchange.Request

/-!
# Sessions

A session is a computation that may send requests and look at files.  Run in some surroundings it
ends with a value or an error, leaves a trace of what it did, and leaves the surroundings.  The
trace of two sessions in a row is the trace of the first followed by that of the second.
-/

namespace SlackCourier

inductive Event where
  | request (request : Request)
  | look (path : Text)
  deriving DecidableEq, Repr

def Event.request? : Event → Option Request
  | .request r => some r
  | .look _ => none

/-- How a session ends. -/
structure Ending (ε α : Type) where
  result : Except ε α
  trace : List Event
  world : World

def Ending.calls {ε α : Type} (ending : Ending ε α) : List Request :=
  ending.trace.filterMap Event.request?

def Session (ε α : Type) : Type := World → Ending ε α

namespace Session

variable {ε ε' α β : Type}

def pure (value : α) : Session ε α := fun world => ⟨.ok value, [], world⟩

def fail (error : ε) : Session ε α := fun world => ⟨.error error, [], world⟩

/-- Goes on with the value of the first session; an error ends both. -/
def bind (first : Session ε α) (next : α → Session ε β) : Session ε β := fun world =>
  let ending := first world
  match ending.result with
  | .ok value =>
    let last := next value ending.world
    ⟨last.result, ending.trace ++ last.trace, last.world⟩
  | .error error => ⟨.error error, ending.trace, ending.world⟩

instance : Monad (Session ε) where
  pure := pure
  bind := bind

def mapError (f : ε → ε') (session : Session ε α) : Session ε' α := fun world =>
  let ending := session world
  ⟨ending.result.mapError f, ending.trace, ending.world⟩

/-- The outcome of a session as a value: it never fails. -/
def attempt (session : Session ε α) : Session ε' (Except ε α) := fun world =>
  let ending := session world
  ⟨.ok ending.result, ending.trace, ending.world⟩

def lift : Except ε α → Session ε α
  | .ok value => pure value
  | .error error => fail error

/-- Sends a request: the response, or the reason that there is none, in words if it has any. -/
def request (r : Request) : Session ε (Except (Option Text) Response) := fun world =>
  let (answer, after) := world.answer r.url
  ⟨.ok answer, [.request r], after⟩

def look (path : Text) (query : File.Tree → File.Path → α) : Session ε α := fun world =>
  ⟨.ok (query world.tree world.directory), [.look path], world⟩

@[simp] theorem pure_apply (value : α) (world : World) :
    (Pure.pure value : Session ε α) world = ⟨.ok value, [], world⟩ := rfl

@[simp] theorem fail_apply (error : ε) (world : World) :
    (fail error : Session ε α) world = ⟨.error error, [], world⟩ := rfl

@[simp] theorem request_apply (r : Request) (world : World) :
    (request r : Session ε (Except (Option Text) Response)) world =
      ⟨.ok (world.answer r.url).1, [.request r], (world.answer r.url).2⟩ := rfl

@[simp] theorem look_apply (path : Text) (query : File.Tree → File.Path → α) (world : World) :
    (look path query : Session ε α) world =
      ⟨.ok (query world.tree world.directory), [.look path], world⟩ := rfl

@[simp] theorem attempt_apply (session : Session ε α) (world : World) :
    (session.attempt : Session ε' (Except ε α)) world =
      ⟨.ok (session world).result, (session world).trace, (session world).world⟩ := rfl

@[simp] theorem mapError_apply (f : ε → ε') (session : Session ε α) (world : World) :
    session.mapError f world =
      ⟨(session world).result.mapError f, (session world).trace, (session world).world⟩ := rfl

@[simp] theorem lift_ok (value : α) : (lift (.ok value) : Session ε α) = Pure.pure value := rfl

@[simp] theorem lift_error (error : ε) : (lift (.error error) : Session ε α) = fail error := rfl

theorem bind_ok {first : Session ε α} {next : α → Session ε β} {world : World} {value : α}
    (h : (first world).result = .ok value) :
    (first >>= next) world =
      ⟨(next value (first world).world).result,
        (first world).trace ++ (next value (first world).world).trace,
        (next value (first world).world).world⟩ := by
  show bind first next world = _
  simp [bind, h]

theorem bind_error {first : Session ε α} {next : α → Session ε β} {world : World}
    {error : ε} (h : (first world).result = .error error) :
    (first >>= next) world = ⟨.error error, (first world).trace, (first world).world⟩ := by
  show bind first next world = _
  simp [bind, h]

theorem bind_attempt (session : Session ε α) (next : Except ε α → Session ε' β) (world : World) :
    (session.attempt >>= next) world =
      ⟨(next (session world).result (session world).world).result,
        (session world).trace ++ (next (session world).result (session world).world).trace,
        (next (session world).result (session world).world).world⟩ :=
  bind_ok rfl

theorem bind_eq_ok {first : Session ε α} {next : α → Session ε β} {world : World} {value : β}
    (h : ((first >>= next) world).result = .ok value) :
    ∃ between, (first world).result = .ok between ∧
      (next between (first world).world).result = .ok value := by
  cases hr : (first world).result with
  | error error =>
    rw [bind_error hr] at h
    cases h
  | ok between =>
    rw [bind_ok hr] at h
    exact ⟨between, rfl, h⟩

/-- Whether a session that ends with a value has used up a turn of the script. -/
def Advances (session : Session ε α) : Prop :=
  ∀ world value, (session world).result = .ok value →
    (session world).world.script.length < world.script.length

theorem Advances.bind {first : Session ε α} {next : α → Session ε β} (hfirst : Advances first)
    (hnext : ∀ value world, (next value world).world = world) : Advances (first >>= next) := by
  intro world value h
  obtain ⟨between, hbetween, -⟩ := bind_eq_ok h
  rw [bind_ok hbetween, hnext]
  exact hfirst world between hbetween

theorem Advances.bind_lift {first : Session ε α} (hfirst : Advances first)
    (next : α → Except ε β) : Advances (first >>= fun value => lift (next value)) := by
  refine hfirst.bind fun value world => ?_
  cases next value <;> rfl

end Session

end SlackCourier
