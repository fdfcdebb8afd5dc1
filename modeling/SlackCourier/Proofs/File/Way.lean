import SlackCourier.File.Containment
import SlackCourier.Proofs.File.Names

/-!
# The way down

What the text of the way from a base to a path says about the two.  The texts of both are compared
unit by unit, and may go on alike into the middle of a name; but what remains behind the last slash
that they share is what remains of the names when those they share are taken off.  So the beginning
of the way tells whether the base is an initial part of the path, and names that only look like
going up are names like any other.
-/

namespace SlackCourier.File

/-- Strictly below a base: the names of the base, and then at least one more. -/
def IsStrictlyBelow (base path : Path) : Prop := ∃ name rest, path = base ++ name :: rest

/-- How two paths part: after the names that they share, one goes on with `up`, the other with
`down`, and these do not begin with the same name. -/
structure Parts (base target common up down : Path) : Prop where
  base_eq : base = common ++ up
  target_eq : target = common ++ down
  differ : ∀ name, up.head? = some name → down.head? ≠ some name

namespace Parts

variable {base target common up down : Path}

theorem cons (h : Parts base target common up down) (name : Text) :
    Parts (name :: base) (name :: target) (name :: common) up down :=
  ⟨congrArg _ h.base_eq, congrArg _ h.target_eq, h.differ⟩

theorem isStrictlyBelow_iff (h : Parts base target common up down) :
    IsStrictlyBelow base target ↔ up = [] ∧ down ≠ [] := by
  obtain ⟨rfl, rfl, hdiffer⟩ := h
  constructor
  · rintro ⟨name, rest, he⟩
    rw [List.append_assoc] at he
    have hdown : down = up ++ name :: rest := List.append_cancel_left he
    cases up with
    | nil => exact ⟨rfl, by simp [hdown]⟩
    | cons first more => exact absurd (by simp [hdown]) (hdiffer first rfl)
  · rintro ⟨rfl, hdown⟩
    obtain ⟨name, rest, rfl⟩ := List.exists_cons_of_ne_nil hdown
    exact ⟨name, rest, by simp⟩

end Parts

section

variable {α : Type} [DecidableEq α] {sep : α}

theorem remains_append {piece : List α} (h : sep ∉ piece) (up down base target : List α) :
    remains sep up down (piece ++ base) (piece ++ target) = remains sep up down base target := by
  induction piece with
  | nil => rfl
  | cons c rest ih =>
    simp only [List.mem_cons, not_or] at h
    simp only [List.cons_append, remains, if_true, if_neg (Ne.symm h.1), ih h.2]

theorem remains_of_ne {a b : List α} (ha : sep ∉ a) (hb : sep ∉ b) (hne : a ≠ b)
    {base target : List α} (hbase : ∀ c, base.head? = some c → c = sep)
    (htarget : ∀ c, target.head? = some c → c = sep) (up down : List α) :
    remains sep up down (a ++ base) (b ++ target) = (up, down) := by
  induction a generalizing b with
  | nil =>
    cases b with
    | nil => exact absurd rfl hne
    | cons d rest =>
      simp only [List.mem_cons, not_or] at hb
      cases base with
      | nil => simp [remains, Ne.symm hb.1]
      | cons c base =>
        obtain rfl := hbase c rfl
        simp [remains, hb.1]
  | cons c more ih =>
    simp only [List.mem_cons, not_or] at ha
    cases b with
    | nil =>
      cases target with
      | nil => simp [remains, Ne.symm ha.1]
      | cons d target =>
        obtain rfl := htarget d rfl
        simp [remains, Ne.symm ha.1]
    | cons d rest =>
      simp only [List.mem_cons, not_or] at hb
      by_cases hcd : c = d
      · subst hcd
        have hrest : more ≠ rest := fun h => hne (by rw [h])
        simp only [List.cons_append, remains, if_true, if_neg (Ne.symm ha.1)]
        exact ih ha.2 hb.2 hrest
      · simp [remains, hcd]

end

/-- What follows a name in the text of a path: nothing, or a slash and the names behind it. -/
def trail (names : List Text) : List UInt16 :=
  if names = [] then [] else Text.unit '/' :: (Text.join "/" names).units

theorem units_join_cons (name : Text) (names : List Text) :
    (Text.join "/" (name :: names)).units = name.units ++ trail names := by
  cases names with
  | nil => simp [trail, Text.join, Text.joinList]
  | cons next rest =>
    simp only [trail, reduceCtorEq, if_false]
    exact List.append_assoc name.units [Text.unit '/'] _

theorem eq_slash_of_head?_trail (names : List Text) :
    ∀ c, (trail names).head? = some c → c = Text.unit '/' := by
  unfold trail
  split_ifs <;> simp [eq_comm]

theorem units_join_ne_nil {names : List Text} (hne : names ≠ []) (h : ∀ n ∈ names, IsPiece n) :
    (Text.join "/" names).units ≠ [] := by
  obtain ⟨name, rest, rfl⟩ := List.exists_cons_of_ne_nil hne
  rw [units_join_cons]
  exact List.append_ne_nil_of_left_ne_nil (h name (by simp)).1 _

theorem remains_trail_of_nil {as bs : List Text} (h : as = [] ∨ bs = []) (up down : List UInt16) :
    remains (Text.unit '/') up down (trail as) (trail bs) =
      ((Text.join "/" as).units, (Text.join "/" bs).units) := by
  rcases h with rfl | rfl
  · cases bs <;> simp [trail, remains, Text.join, Text.joinList]
  · cases as <;> simp [trail, remains, Text.join, Text.joinList]

theorem remains_trail {as bs : List Text} (has : as ≠ []) (hbs : bs ≠ []) (up down : List UInt16) :
    remains (Text.unit '/') up down (trail as) (trail bs) =
      remains (Text.unit '/') (Text.join "/" as).units (Text.join "/" bs).units
        (Text.join "/" as).units (Text.join "/" bs).units := by
  simp [trail, has, hbs, remains]

theorem parts_of_nil {base target : Path} (h : base = [] ∨ target = []) :
    Parts base target [] base target := by
  refine ⟨rfl, rfl, ?_⟩
  rcases h with rfl | rfl
  · simp
  · simp

/-- What remains of the texts of two paths are the texts of what remains of the paths: by induction
on the names that they share, each of which takes the last common slash one name further. -/
theorem exists_parts {base target : Path} (hbase : ∀ n ∈ base, IsPiece n)
    (htarget : ∀ n ∈ target, IsPiece n) :
    ∃ common up down, Parts base target common up down ∧
      remains (Text.unit '/') (Text.join "/" base).units (Text.join "/" target).units
          (Text.join "/" base).units (Text.join "/" target).units =
        ((Text.join "/" up).units, (Text.join "/" down).units) := by
  induction base generalizing target with
  | nil =>
    refine ⟨[], [], target, parts_of_nil (Or.inl rfl), ?_⟩
    cases target with
    | nil => rfl
    | cons b bs =>
      have hb := htarget b (by simp)
      rw [units_join_cons b]
      exact remains_of_ne (List.not_mem_nil) hb.2 hb.1.symm (by simp)
        (eq_slash_of_head?_trail bs) _ _
  | cons a as ih =>
    have ha := hbase a (by simp)
    cases target with
    | nil =>
      refine ⟨[], a :: as, [], parts_of_nil (Or.inr rfl), ?_⟩
      rw [units_join_cons a]
      exact remains_of_ne ha.2 (List.not_mem_nil) ha.1 (eq_slash_of_head?_trail as)
        (by simp) _ _
    | cons b bs =>
      have hb := htarget b (by simp)
      by_cases hab : a = b
      · subst hab
        rw [units_join_cons a as, units_join_cons a bs, remains_append ha.2]
        by_cases hnil : as = [] ∨ bs = []
        · exact ⟨[a], as, bs, (parts_of_nil hnil).cons a, remains_trail_of_nil hnil _ _⟩
        · obtain ⟨has, hbs⟩ := not_or.1 hnil
          have hrest : ∀ n ∈ bs, IsPiece n := fun n hn => htarget n (List.mem_cons_of_mem _ hn)
          obtain ⟨common, up, down, hparts, hremains⟩ :=
            ih (fun n hn => hbase n (List.mem_cons_of_mem _ hn)) hrest
          exact ⟨a :: common, up, down, hparts.cons a, by rw [remains_trail has hbs, hremains]⟩
      · have hunits : a.units ≠ b.units := fun h => hab (congrArg Text.mk h)
        refine ⟨[], a :: as, b :: bs, ⟨rfl, rfl, ?_⟩, ?_⟩
        · simpa [eq_comm] using hab
        · rw [units_join_cons a, units_join_cons b]
          exact remains_of_ne ha.2 hb.2 hunits (eq_slash_of_head?_trail as)
            (eq_slash_of_head?_trail bs) _ _

theorem join_append_singleton_join (first : List Text) {names : List Text} (hne : names ≠ []) :
    Text.join "/" (first ++ [Text.join "/" names]) = Text.join "/" (first ++ names) := by
  induction first with
  | nil => rfl
  | cons f fs ih =>
    have hunits : (Text.join "/" (f :: (fs ++ [Text.join "/" names]))).units =
        (Text.join "/" (f :: (fs ++ names))).units := by
      rw [units_join_cons, units_join_cons]
      simp [trail, ih, hne]
    exact congrArg Text.mk hunits

theorem steps_join {up : List Text} (h : ∀ n ∈ up, IsPiece n) :
    (if (Text.join "/" up).units = [] then []
      else (Text.splitList (Text.unit '/') (Text.join "/" up).units).map fun _ => (".." : Text)) =
      List.replicate up.length (".." : Text) := by
  by_cases hup : up = []
  · subst hup
    rfl
  · rw [if_neg (units_join_ne_nil hup h), splitList_join hup h, List.map_map]
    exact List.map_const'

/-- The way from one path to another goes up once for each name that remains of the first, and then
down the names that remain of the second. -/
theorem relative_render {base target : Path} (hbase : ∀ n ∈ base, IsPiece n)
    (htarget : ∀ n ∈ target, IsPiece n) :
    ∃ common up down, Parts base target common up down ∧
      relative (render base) (render target) =
        Text.join "/" (List.replicate up.length (".." : Text) ++ down) := by
  have hdrop : ∀ path, (render path).units.drop 1 = (Text.join "/" path).units := fun path => rfl
  obtain ⟨common, up, down, hparts, hremains⟩ := exists_parts hbase htarget
  have hup : ∀ n ∈ up, IsPiece n := fun n hn => hbase n (by simp [hparts.base_eq, hn])
  have hdown : ∀ n ∈ down, IsPiece n := fun n hn => htarget n (by simp [hparts.target_eq, hn])
  refine ⟨common, up, down, hparts, ?_⟩
  simp only [relative, hdrop, hremains, steps_join hup]
  by_cases hnil : down = []
  · subst hnil
    rfl
  · rw [if_neg (units_join_ne_nil hnil hdown)]
    exact join_append_singleton_join _ hnil

theorem leadsOut_join_cons_iff {name : Text} {rest : List Text}
    (h : ∀ n ∈ name :: rest, IsPiece n) :
    leadsOut (Text.join "/" (name :: rest)) = true ↔ name = ".." := by
  have hsplit := splitList_join (by simp) h
  have hname : name.units ≠ [] := (h name (by simp)).1
  constructor
  · intro hout
    simp only [leadsOut, isAbsolute, Bool.or_eq_true, beq_iff_eq] at hout
    rcases hout with ((hway | hway) | hstart) | hstart
    · rw [hway] at hsplit
      exact absurd (List.cons.inj hsplit).1.symm hname
    · rw [hway] at hsplit
      exact congrArg Text.mk (List.cons.inj hsplit).1.symm
    · obtain ⟨more, hway⟩ := Text.startsWith_iff.1 hstart
      rw [hway] at hsplit
      exact congrArg Text.mk (List.cons.inj hsplit).1.symm
    · obtain ⟨more, hway⟩ := Text.startsWith_iff.1 hstart
      rw [hway] at hsplit
      exact absurd (List.cons.inj hsplit).1.symm hname
  · rintro rfl
    cases rest with
    | nil => rfl
    | cons next rest =>
      have hstart : (Text.join "/" ((".." : Text) :: next :: rest)).startsWith "../" = true :=
        Text.startsWith_iff.2 ⟨Text.join "/" (next :: rest), rfl⟩
      simp [leadsOut, hstart]

/-- The text of the way decides as the names do: a path is let through exactly when it has the base
as a proper initial part. -/
theorem isBelow_iff {base target : Path} (hbase : IsPath base) (htarget : IsPath target) :
    isBelow base target = true ↔ IsStrictlyBelow base target := by
  obtain ⟨common, up, down, hparts, hway⟩ := relative_render hbase.isPiece htarget.isPiece
  have hdown : ∀ n ∈ down, IsName n := by
    intro n hn
    exact htarget n (by simp [hparts.target_eq, hn])
  have hpieces : ∀ n ∈ List.replicate up.length (".." : Text) ++ down, IsPiece n := by
    intro n hn
    rcases List.mem_append.1 hn with hn | hn
    · rw [List.eq_of_mem_replicate hn]
      constructor <;> decide
    · exact (hdown n hn).1
  unfold isBelow
  rw [hway, hparts.isStrictlyBelow_iff]
  cases up with
  | nil =>
    cases down with
    | nil =>
      have hout : leadsOut (Text.join "/" []) = true := rfl
      simp [hout]
    | cons name rest =>
      have hdots : name ≠ ".." := (hdown name (by simp)).2.2
      have hin : leadsOut (Text.join "/" (name :: rest)) = false := by
        rw [← Bool.not_eq_true, leadsOut_join_cons_iff hpieces]
        exact hdots
      simp [hin]
  | cons first more =>
    have hout : leadsOut (Text.join "/" ((".." : Text) ::
        (List.replicate more.length (".." : Text) ++ down))) = true :=
      (leadsOut_join_cons_iff hpieces).2 rfl
    simp [List.replicate_succ, hout]

end SlackCourier.File
