import SlackCourier.Proofs.Exchange.Course

/-!
# Sessions that are alike

Two sessions are alike if they end the same wherever they start, and send the same requests but for
what a mask hides.  What comes after two sessions sees nothing but their value, so sessions that are
alike step by step are alike as a whole.
-/

namespace SlackCourier

/-- Whether two endings are the same but for what a mask hides in the requests. -/
structure Ending.Alike {ε α : Type} (mask : Request → Request) (first second : Ending ε α) :
    Prop where
  result : first.result = second.result
  calls : first.calls.map mask = second.calls.map mask
  world : first.world = second.world

namespace Session

variable {ε ε' α β : Type} {mask : Request → Request}

def Alike (mask : Request → Request) (first second : Session ε α) : Prop :=
  ∀ world, (first world).Alike mask (second world)

theorem Alike.refl (session : Session ε α) : Alike mask session session :=
  fun _ => ⟨rfl, rfl, rfl⟩

theorem Alike.bind {first second : Session ε α} {next other : α → Session ε β}
    (hfirst : Alike mask first second) (hnext : ∀ value, Alike mask (next value) (other value)) :
    Alike mask (first >>= next) (second >>= other) := by
  intro world
  have hstart := hfirst world
  cases hresult : (first world).result with
  | error error =>
    have hsecond : (second world).result = .error error := hstart.result ▸ hresult
    rw [bind_error hresult, bind_error hsecond]
    exact ⟨rfl, hstart.calls, hstart.world⟩
  | ok value =>
    have hsecond : (second world).result = .ok value := hstart.result ▸ hresult
    have hrest : Ending.Alike mask (next value (first world).world)
        (other value (second world).world) := hstart.world ▸ hnext value (first world).world
    have hcalls : ((first >>= next) world).calls.map mask =
        ((second >>= other) world).calls.map mask := by
      rw [calls_bind_of_ok hresult, calls_bind_of_ok hsecond, List.map_append, List.map_append,
        hstart.calls, hrest.calls]
    refine ⟨?_, hcalls, ?_⟩
    · rw [bind_ok hresult, bind_ok hsecond]
      exact hrest.result
    · rw [bind_ok hresult, bind_ok hsecond]
      exact hrest.world

theorem Alike.mapError {first second : Session ε α} (h : Alike mask first second) (f : ε → ε') :
    Alike mask (first.mapError f) (second.mapError f) := by
  intro world
  have hsame := h world
  exact ⟨congrArg (Except.mapError f) hsame.result, hsame.calls, hsame.world⟩

theorem Alike.attempt {first second : Session ε α} (h : Alike mask first second) :
    Alike mask (first.attempt : Session ε' (Except ε α)) second.attempt := by
  intro world
  have hsame := h world
  exact ⟨congrArg Except.ok hsame.result, hsame.calls, hsame.world⟩

theorem alike_once {r s : Request} (hmask : mask r = mask s) (hurl : r.url = s.url)
    (read : Except (Option Text) Response → Except ε α) :
    Alike mask (once r read) (once s read) := by
  intro world
  refine ⟨?_, ?_, ?_⟩
  · simp only [once_apply, hurl]
  · exact congrArg (fun masked => [masked]) hmask
  · simp only [once_apply, hurl]

end Session

end SlackCourier
