import SlackCourier.Proofs.Exchange.Course

/-!
# Answers by number

The request with a number meets the turn of the script with that number, counted from zero.  So what
a request later in a run meets can be said of the script with which the run began.
-/

namespace SlackCourier.World

/-- Whether the request with a number is answered with a response. -/
def Answers (world : World) (n : Nat) (response : Response) : Prop :=
  ∃ removes, world.script[n]? = some ⟨removes, .response response⟩

/-- Whether the request with a number is answered with status 200 and an object. -/
def Grants (world : World) (n : Nat) (answer : Members) : Prop :=
  ∃ response, world.Answers n response ∧ response.status = okStatus ∧ response.object = .ok answer

theorem Answers.unique {world : World} {n : Nat} {first second : Response}
    (hfirst : world.Answers n first) (hsecond : world.Answers n second) : first = second := by
  obtain ⟨removes, hfirst⟩ := hfirst
  obtain ⟨_, hsecond⟩ := hsecond
  rw [hfirst] at hsecond
  simp only [Option.some.injEq, Turn.mk.injEq, Answer.response.injEq] at hsecond
  exact hsecond.2

theorem Grants.unique {world : World} {n : Nat} {first second : Members}
    (hfirst : world.Grants n first) (hsecond : world.Grants n second) : first = second := by
  obtain ⟨response, hanswers, -, hobject⟩ := hfirst
  obtain ⟨_, hagain, -, hother⟩ := hsecond
  rw [← hanswers.unique hagain, hobject] at hother
  exact Except.ok.inj hother

theorem answer_eq_ok_iff {world : World} {url : Text} {response : Response} :
    (world.answer url).1 = .ok response ↔ world.Answers 0 response := by
  constructor
  · intro h
    obtain ⟨turn, rest, hscript, hanswer⟩ := answer_eq_ok h
    exact ⟨turn.removes, by rw [hscript, List.getElem?_cons_zero, ← hanswer]⟩
  · rintro ⟨removes, h⟩
    cases hscript : world.script with
    | nil => simp [hscript] at h
    | cons turn rest =>
      simp only [hscript, List.getElem?_cons_zero, Option.some.injEq] at h
      simp [answer, hscript, h, Answer.settle]

theorem Later.answers_iff {before after : World} {n m : Nat} (h : before.Later after n)
    {response : Response} : after.Answers m response ↔ before.Answers (n + m) response := by
  unfold Answers
  rw [h.script]
  simp only [List.getElem?_drop]

theorem Later.answer_eq_ok_iff {before after : World} {n : Nat} (h : before.Later after n)
    {url : Text} {response : Response} :
    (after.answer url).1 = .ok response ↔ before.Answers n response := by
  rw [World.answer_eq_ok_iff, h.answers_iff, Nat.add_zero]

theorem Later.read_eq_ok_iff {before after : World} {n : Nat} (h : before.Later after n)
    {step : Step} {label url : Text} {response : Response} :
    step.read label url (after.answer url).1 = .ok response ↔
      before.Answers n response ∧ response.status = okStatus := by
  rw [Step.read_eq_ok_iff, h.answer_eq_ok_iff]

theorem Later.readObject_eq_ok_iff {before after : World} {n : Nat} (h : before.Later after n)
    {step : Step} {label url : Text} {answer : Members} :
    step.readObject label url (after.answer url).1 = .ok answer ↔ before.Grants n answer := by
  unfold Grants
  simp only [Step.readObject_eq_ok_iff, h.answer_eq_ok_iff]

end SlackCourier.World
