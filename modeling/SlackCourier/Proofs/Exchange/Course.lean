import SlackCourier.Proofs.Exchange.Once
import SlackCourier.Proofs.File.Walk
import SlackCourier.Task.Run

/-!
# The course of a session

Two sessions in a row taken apart, and what a session does to its surroundings: it uses up one turn
of the script for each request it sends, stays in its directory, and loses files but gains none.
Everything that is said later about the order of answers, and about files between two requests,
rests on this.
-/

namespace SlackCourier

@[simp] theorem Ending.calls_nil {ε α : Type} (result : Except ε α) (world : World) :
    (⟨result, [], world⟩ : Ending ε α).calls = [] := rfl

namespace Session

variable {ε ε' α β : Type} {first : Session ε α} {next : α → Session ε β} {world : World}

theorem calls_bind_of_ok {value : α} (h : (first world).result = .ok value) :
    ((first >>= next) world).calls =
      (first world).calls ++ (next value (first world).world).calls := by
  unfold Ending.calls
  rw [bind_ok h, List.filterMap_append]

theorem calls_bind_of_error {error : ε} (h : (first world).result = .error error) :
    ((first >>= next) world).calls = (first world).calls := by
  unfold Ending.calls
  rw [bind_error h]

/-- A request of two sessions in a row is one of the first, or one of the second with the value of
the first. -/
theorem mem_calls_bind {q : Request} (h : q ∈ ((first >>= next) world).calls) :
    q ∈ (first world).calls ∨ ∃ value, (first world).result = .ok value ∧
      q ∈ (next value (first world).world).calls := by
  cases hr : (first world).result with
  | error error =>
    rw [calls_bind_of_error hr] at h
    exact Or.inl h
  | ok value =>
    rw [calls_bind_of_ok hr, List.mem_append] at h
    exact h.imp_right fun hq => ⟨value, rfl, hq⟩

theorem bind_eq_error {error : ε} (h : ((first >>= next) world).result = .error error) :
    (first world).result = .error error ∨ ∃ between, (first world).result = .ok between ∧
      (next between (first world).world).result = .error error := by
  cases hr : (first world).result with
  | error cause =>
    rw [bind_error hr] at h
    exact Or.inl (congrArg Except.error (Except.error.inj h))
  | ok between =>
    rw [bind_ok hr] at h
    exact Or.inr ⟨between, rfl, h⟩

@[simp] theorem calls_lift (done : Except ε α) : (lift done world).calls = [] := by
  cases done <;> rfl

@[simp] theorem result_lift (done : Except ε α) : (lift done world).result = done := by
  cases done <;> rfl

@[simp] theorem world_lift (done : Except ε α) : (lift done world).world = world := by
  cases done <;> rfl

theorem calls_attempt (session : Session ε α) :
    ((session.attempt : Session ε' (Except ε α)) world).calls = (session world).calls := rfl

theorem calls_mapError (f : ε → ε') (session : Session ε α) :
    (session.mapError f world).calls = (session world).calls := rfl

end Session

/-- Whether the second surroundings are what so many requests can have left of the first. -/
structure World.Later (before after : World) (requests : Nat) : Prop where
  script : after.script = before.script.drop requests
  directory : after.directory = before.directory
  tree : after.tree.Within before.tree

namespace World

theorem Later.refl (world : World) : world.Later world 0 :=
  ⟨rfl, rfl, File.Tree.Within.refl _⟩

theorem Later.trans {a b c : World} {m n : Nat} (hab : a.Later b m) (hbc : b.Later c n) :
    a.Later c (m + n) :=
  ⟨by rw [hbc.script, hab.script, List.drop_drop], hbc.directory.trans hab.directory,
    File.Tree.Within.trans hbc.tree hab.tree⟩

theorem Later.mem_script {before after : World} {n : Nat} (h : before.Later after n) {turn : Turn}
    (ht : turn ∈ after.script) : turn ∈ before.script := by
  rw [h.script] at ht
  exact List.mem_of_mem_drop ht

theorem Later.head?_script {before after : World} {n : Nat} (h : before.Later after n) :
    after.script.head? = before.script[n]? := by
  rw [h.script, List.head?_drop]

theorem Later.read {before after : World} {n : Nat} (h : before.Later after n) {path : Text}
    {content : Text.Bytes} (hread : after.tree.read after.directory path = .ok content) :
    before.tree.read before.directory path = .ok content := by
  rw [h.directory] at hread
  exact File.Tree.Within.read h.tree hread

theorem later_answer (world : World) (url : Text) : world.Later (world.answer url).2 1 := by
  refine ⟨by rw [script_answer, List.drop_one], ?_, ?_⟩
  · unfold answer
    cases world.script <;> rfl
  · unfold answer
    cases world.script with
    | nil => exact File.Tree.Within.refl _
    | cons turn rest => exact File.Tree.within_removeAll world.tree world.directory turn.removes

end World

namespace Session

variable {ε ε' α β : Type}

/-- Whether a session leaves what its requests leave, whatever it starts from. -/
def Steady (session : Session ε α) : Prop :=
  ∀ world : World, world.Later (session world).world (session world).calls.length

theorem steady_pure (value : α) : Steady (Pure.pure value : Session ε α) := World.Later.refl

theorem steady_fail (error : ε) : Steady (fail error : Session ε α) := World.Later.refl

theorem steady_lift (done : Except ε α) : Steady (lift done) := by
  cases done with
  | ok value => exact steady_pure value
  | error error => exact steady_fail error

theorem steady_look (path : Text) (query : File.Tree → File.Path → α) :
    Steady (look path query : Session ε α) := World.Later.refl

theorem steady_once (r : Request) (read : Except (Option Text) Response → Except ε α) :
    Steady (once r read) := fun world => world.later_answer r.url

/-- Steadiness passes through two sessions in a row: the requests of both have been answered. -/
theorem Steady.bind {first : Session ε α} {next : α → Session ε β} (hfirst : Steady first)
    (hnext : ∀ value, Steady (next value)) : Steady (first >>= next) := by
  intro world
  cases hr : (first world).result with
  | error error =>
    rw [calls_bind_of_error hr, bind_error hr]
    exact hfirst world
  | ok value =>
    rw [calls_bind_of_ok hr, List.length_append, bind_ok hr]
    exact (hfirst world).trans (hnext value _)

theorem Steady.mapError {session : Session ε α} (h : Steady session) (f : ε → ε') :
    Steady (session.mapError f) := h

theorem Steady.attempt {session : Session ε α} (h : Steady session) :
    Steady (session.attempt : Session ε' (Except ε α)) := h

end Session

open Session

namespace Channel

theorem steady_readPage (token : Text) (insecure : Bool) (cursor : Option Text) :
    Steady (readPage token insecure cursor) := by
  rw [readPage_eq_once]
  exact steady_once _ _

theorem steady_searchWithin (token name : Text) (insecure : Bool) (pages : Nat)
    (cursor : Option Text) : Steady (searchWithin token name insecure pages cursor) := by
  induction pages generalizing cursor with
  | zero => exact steady_fail _
  | succ pages ih =>
    refine (steady_readPage token insecure cursor).bind fun page => ?_
    split
    · exact steady_pure _
    · exact steady_fail _
    · exact ih _

theorem steady_find (token name : Text) (insecure : Bool) : Steady (find token name insecure) := by
  intro world
  rw [find_eq_searchWithin]
  exact steady_searchWithin token name insecure _ none world

end Channel

namespace Upload

theorem steady_measure (path : Text) : Steady (measure path) := by
  refine (steady_look _ _).bind fun found => ?_
  cases found with
  | ok length => exact steady_pure _
  | error error => exact steady_fail _

theorem steady_content (path : Text) : Steady (content path) := by
  refine (steady_look _ _).bind fun found => ?_
  cases found with
  | ok bytes => exact steady_pure _
  | error error => exact steady_fail _

end Upload

namespace Task

theorem steady_preview (task : Task) (dryRun : Bool) : Steady (task.preview dryRun) := by
  unfold preview
  split
  · exact steady_fail _
  · cases task.messageId with
    | none => exact steady_pure _
    | some messageId =>
      unfold previewEdit
      simp only [Message.find_eq_once]
      refine (steady_lift _).bind fun channel => ?_
      refine (steady_once _ _).bind fun message => ?_
      split
      · exact steady_pure _
      · split
        · exact steady_pure _
        · exact steady_pure _

end Task

end SlackCourier
