import SlackCourier.Log.Line
import SlackCourier.Proofs.Json.Place
import Mathlib.Data.List.Basic
import Mathlib.Data.List.Forall2

/-!
# What a log line keeps of its fields

A place of a log object is a secret one if its last name is the name of a secret at that depth: one
of all the names at the first two depths, one of fewer at the third.  What stands at a secret place
is censored, unless something above it is; what stands at any other place is kept, with the secrets
below it censored.  The line that is written is the text of the censored object.
-/

namespace SlackCourier

open Json

namespace Redaction

theorem lookup_searched (members : Members) (name : Text) :
    (searched members).lookup name =
      if name = reservedName then none else members.lookup name := by
  induction members with
  | nil => simp [searched]
  | cons m rest ih =>
    obtain ⟨key, value⟩ := m
    have hrest : searched ((key, value) :: rest) =
        if key = reservedName then searched rest else (key, value) :: searched rest := by
      by_cases hkey : key = reservedName <;> simp [searched, hkey]
    rw [hrest, List.lookup_cons]
    by_cases hkey : key = reservedName
    · rw [if_pos hkey, ih, hkey]
      by_cases hname : name = reservedName
      · simp [hname]
      · simp [hname, beq_eq_false_iff_ne.2 hname]
    · rw [if_neg hkey, List.lookup_cons, ih]
      by_cases hname : name = key
      · simp [hname, hkey]
      · rw [beq_eq_false_iff_ne.2 hname]

/-- What becomes of the value at the end of a branch. -/
def below (secret : List Text) (deeper : List (List Text)) : Branch → Json → Json
  | .member name, value => if secret.contains name then censored else redact deeper value
  | .item _, value => redact deeper value

variable {secret : List Text} {names deeper : List (List Text)} {value : Json} {branch : Branch}
  {path : List Branch}

theorem below_of_open (h : ∀ name ∈ secret, branch ≠ .member name) (value : Json) :
    below secret deeper branch value = redact deeper value := by
  cases branch with
  | item position => rfl
  | member name =>
    have hname : ¬ secret.contains name := by
      rw [List.contains_iff_mem]
      exact fun hmem => h name hmem rfl
    rw [below, if_neg hname]

theorem below_of_secret {name : Text} (h : name ∈ secret) (value : Json) :
    below secret deeper (.member name) value = censored := by
  rw [below, if_pos (List.contains_iff_mem.2 h)]

theorem redact_of_isLeaf (h : value.isLeaf = true) : redact names value = value := by
  cases value with
  | list | object => cases h
  | _ => cases names <;> rfl

theorem child?_redact (value : Json) (branch : Branch) :
    (redact (secret :: deeper) value).child? branch =
      if branch = .member reservedName then none
      else (value.child? branch).map (below secret deeper branch) := by
  cases value with
  | list items =>
    cases branch with
    | member name => simp [redact, child?]
    | item position =>
      rw [redact, child?_item, child?_item, List.getElem?_map]
      rfl
  | object members =>
    cases branch with
    | item position => simp [redact, child?]
    | member name =>
      have hfound := lookup_map_value
        (fun key v => if secret.contains key then censored else redact deeper v)
        (searched members) name
      rw [lookup_searched] at hfound
      by_cases hname : name = reservedName
      · rw [if_pos hname, Option.map_none] at hfound
        rw [if_pos (congrArg Branch.member hname)]
        exact hfound
      · have hbranch : Branch.member name ≠ .member reservedName := by simpa using hname
        rw [if_neg hname] at hfound
        rw [if_neg hbranch]
        exact hfound
  | null | bool | number | string =>
    rw [redact_of_isLeaf rfl, child?_of_isLeaf rfl, Option.map_none, ite_self]

/-- Whether a path ends in one of the names for its depth. -/
def Censors (names : List (List Text)) (path : List Branch) : Prop :=
  ∃ front name secret, path = front ++ [.member name] ∧ names[front.length]? = some secret ∧
    name ∈ secret

/-- Whether a path leads on from a place that is censored. -/
def Covered (names : List (List Text)) (path : List Branch) : Prop :=
  ∃ above, above <+: path ∧ above ≠ path ∧ Censors names above

/-- Whether a path goes through a reserved name at a depth that is searched. -/
def Lost (names : List (List Text)) (path : List Branch) : Prop :=
  .member reservedName ∈ path.take names.length

theorem not_censors_nil : ¬ Censors names [] := by
  rintro ⟨front, name, secret, hpath, -⟩
  simp at hpath

theorem not_censors_of_no_names : ¬ Censors [] path := by
  rintro ⟨front, name, secret, -, hsecret, -⟩
  simp at hsecret

theorem censors_cons_iff : Censors (secret :: deeper) (branch :: path) ↔
    (path = [] ∧ ∃ name ∈ secret, branch = .member name) ∨ Censors deeper path := by
  constructor
  · rintro ⟨front, name, found, hpath, hfound, hname⟩
    cases front with
    | nil =>
      obtain ⟨rfl, rfl⟩ := List.cons.inj hpath
      obtain rfl := Option.some.inj hfound
      exact Or.inl ⟨rfl, name, hname, rfl⟩
    | cons first front =>
      obtain ⟨-, rfl⟩ := List.cons.inj hpath
      exact Or.inr ⟨front, name, found, rfl, hfound, hname⟩
  · rintro (⟨rfl, name, hname, rfl⟩ | ⟨front, name, found, rfl, hfound, hname⟩)
    · exact ⟨[], name, secret, rfl, rfl, hname⟩
    · exact ⟨branch :: front, name, found, rfl, hfound, hname⟩

theorem not_covered_nil : ¬ Covered names [] := by
  rintro ⟨above, hprefix, hne, -⟩
  exact hne (List.prefix_nil.1 hprefix)

theorem not_covered_of_no_names : ¬ Covered [] path := by
  rintro ⟨above, -, -, hcensors⟩
  exact not_censors_of_no_names hcensors

theorem covered_cons_iff : Covered (secret :: deeper) (branch :: path) ↔
    (path ≠ [] ∧ ∃ name ∈ secret, branch = .member name) ∨ Covered deeper path := by
  constructor
  · rintro ⟨above, hprefix, hne, hcensors⟩
    cases above with
    | nil => exact absurd hcensors not_censors_nil
    | cons first above =>
      obtain ⟨rfl, habove⟩ := List.cons_prefix_cons.1 hprefix
      have hother : above ≠ path := fun h => hne (congrArg _ h)
      rcases censors_cons_iff.1 hcensors with ⟨rfl, hname⟩ | hdeeper
      · exact Or.inl ⟨hother.symm, hname⟩
      · exact Or.inr ⟨above, habove, hother, hdeeper⟩
  · rintro (⟨hpath, hname⟩ | ⟨above, habove, hne, hcensors⟩)
    · refine ⟨[branch], List.cons_prefix_cons.2 ⟨rfl, List.nil_prefix⟩, ?_, ?_⟩
      · exact fun h => hpath (List.cons.inj h).2.symm
      · exact censors_cons_iff.2 (Or.inl ⟨rfl, hname⟩)
    · refine ⟨branch :: above, List.cons_prefix_cons.2 ⟨rfl, habove⟩, ?_, ?_⟩
      · exact fun h => hne (List.cons.inj h).2
      · exact censors_cons_iff.2 (Or.inr hcensors)

theorem lost_cons_iff : Lost (secret :: deeper) (branch :: path) ↔
    branch = .member reservedName ∨ Lost deeper path := by
  simp [Lost, eq_comm]

instance (names : List (List Text)) (path : List Branch) : Decidable (Lost names path) :=
  inferInstanceAs (Decidable (_ ∈ _))

instance decidableCensors : (names : List (List Text)) → (path : List Branch) →
    Decidable (Censors names path)
  | [], _ => isFalse not_censors_of_no_names
  | _ :: _, [] => isFalse not_censors_nil
  | _ :: deeper, _ :: path =>
    have := decidableCensors deeper path
    decidable_of_iff _ censors_cons_iff.symm

instance decidableCovered : (names : List (List Text)) → (path : List Branch) →
    Decidable (Covered names path)
  | [], _ => isFalse not_covered_of_no_names
  | _ :: _, [] => isFalse not_covered_nil
  | _ :: deeper, _ :: path =>
    have := decidableCovered deeper path
    decidable_of_iff _ covered_cons_iff.symm

theorem at?_redact_cons (hbranch : branch ≠ .member reservedName)
    (hopen : ∀ name ∈ secret, branch ≠ .member name) :
    (redact (secret :: deeper) value).at? (branch :: path) =
      (value.child? branch).bind fun child => (redact deeper child).at? path := by
  rw [at?_cons, child?_redact, if_neg hbranch, Option.bind_map]
  refine Option.bind_congr fun child _ => ?_
  rw [Function.comp_apply, below_of_open hopen]

theorem at?_redact_cons_eq_none (hpath : path ≠ [])
    (h : branch ≠ .member reservedName → ∀ child, (redact deeper child).at? path = none) :
    (redact (secret :: deeper) value).at? (branch :: path) = none := by
  rw [at?_cons, child?_redact]
  split_ifs with hbranch
  · rfl
  · rw [Option.bind_map, Option.bind_eq_none_iff]
    intro child _
    cases branch with
    | item position => exact h hbranch child
    | member name =>
      rw [Function.comp_apply, below]
      split_ifs
      · obtain ⟨next, rest, rfl⟩ := List.exists_cons_of_ne_nil hpath
        rfl
      · exact h hbranch child

theorem at?_redact_of_lost (h : Lost names path) : (redact names value).at? path = none := by
  induction names generalizing path value with
  | nil => simp [Lost] at h
  | cons secret deeper ih =>
    cases path with
    | nil => simp [Lost] at h
    | cons branch path =>
      rw [lost_cons_iff] at h
      by_cases hpath : path = []
      · have hbranch : branch = .member reservedName := by
          refine h.resolve_right ?_
          rw [hpath]
          simp [Lost]
        rw [at?_cons, child?_redact, if_pos hbranch, Option.bind_none]
      · exact at?_redact_cons_eq_none hpath fun hbranch child => ih (h.resolve_left hbranch)

theorem at?_redact_of_covered (h : Covered names path) :
    (redact names value).at? path = none := by
  induction names generalizing path value with
  | nil => exact absurd h not_covered_of_no_names
  | cons secret deeper ih =>
    cases path with
    | nil => exact absurd h not_covered_nil
    | cons branch path =>
      rcases covered_cons_iff.1 h with ⟨hpath, name, hname, rfl⟩ | hdeeper
      · obtain ⟨next, rest, rfl⟩ := List.exists_cons_of_ne_nil hpath
        rw [at?_cons, child?_redact, funext (below_of_secret hname)]
        split_ifs
        · rfl
        · cases value.child? (.member name) <;> rfl
      · have hpath : path ≠ [] := by
          rintro rfl
          exact not_covered_nil hdeeper
        exact at?_redact_cons_eq_none hpath fun _ _ => ih hdeeper

section

variable (hlost : ¬ Lost names path) (hcovered : ¬ Covered names path)

include hlost hcovered

theorem at?_redact_of_censors (h : Censors names path) :
    (redact names value).at? path = (value.at? path).map fun _ => censored := by
  induction names generalizing path value with
  | nil => exact absurd h not_censors_of_no_names
  | cons secret deeper ih =>
    cases path with
    | nil => exact absurd h not_censors_nil
    | cons branch path =>
      rw [lost_cons_iff, not_or] at hlost
      rw [covered_cons_iff, not_or] at hcovered
      rcases censors_cons_iff.1 h with ⟨rfl, name, hname, rfl⟩ | hdeeper
      · rw [at?_cons, at?_cons, child?_redact, if_neg hlost.1, funext (below_of_secret hname)]
        cases value.child? (.member name) <;> rfl
      · have hpath : path ≠ [] := by
          rintro rfl
          exact not_censors_nil hdeeper
        have hopen : ∀ name ∈ secret, branch ≠ .member name :=
          fun name hname hbranch => hcovered.1 ⟨hpath, name, hname, hbranch⟩
        rw [at?_redact_cons hlost.1 hopen, at?_cons, Option.map_bind]
        exact Option.bind_congr fun child _ => ih hlost.2 hcovered.2 hdeeper

theorem at?_redact_of_not_censors (h : ¬ Censors names path) :
    (redact names value).at? path = (value.at? path).map (redact (names.drop path.length)) := by
  induction names generalizing path value with
  | nil =>
    have hsame : redact (List.drop path.length []) = id := by
      funext found
      rw [List.drop_nil, redact_nil, id]
    rw [hsame, redact_nil, Option.map_id_apply]
  | cons secret deeper ih =>
    cases path with
    | nil => rfl
    | cons branch path =>
      rw [lost_cons_iff, not_or] at hlost
      rw [covered_cons_iff, not_or] at hcovered
      rw [censors_cons_iff, not_or] at h
      have hopen : ∀ name ∈ secret, branch ≠ .member name := by
        intro name hname hbranch
        by_cases hpath : path = []
        · exact h.1 ⟨hpath, name, hname, hbranch⟩
        · exact hcovered.1 ⟨hpath, name, hname, hbranch⟩
      rw [at?_redact_cons hlost.1 hopen, at?_cons, Option.map_bind, List.length_cons,
        List.drop_succ_cons]
      exact Option.bind_congr fun child _ => ih hlost.2 hcovered.2 h.2

end

theorem censors_depths_iff {path : List Branch} : Censors depths path ↔
    ∃ front name, path = front ++ [.member name] ∧
      (front.length < 2 ∧ name ∈ secretNames ∨ front.length = 2 ∧ name ∈ deepNames) := by
  have hdepth : ∀ (n : Nat) (name : Text), (∃ secret, depths[n]? = some secret ∧ name ∈ secret) ↔
      (n < 2 ∧ name ∈ secretNames ∨ n = 2 ∧ name ∈ deepNames) := by
    intro n name
    match n with
    | 0 => simp [depths]
    | 1 => simp [depths]
    | 2 => simp [depths]
    | n + 3 =>
      have hlong : ¬ n + 3 < 2 := by omega
      simp [depths, hlong]
  unfold Censors
  refine exists_congr fun front => exists_congr fun name => ?_
  rw [← hdepth, exists_and_left]

/-- Whether `sent` is `given` with its secrets censored: with nothing censored above it, a secret
place is censored, and any other keeps its value, with the secrets below it censored. -/
structure CensoredByPlace (given sent : Json) : Prop where
  secret : ∀ path, ¬ Lost depths path → ¬ Covered depths path → Censors depths path →
    sent.at? path = (given.at? path).map fun _ => censored
  kept : ∀ path, ¬ Lost depths path → ¬ Covered depths path → ¬ Censors depths path →
    sent.at? path = (given.at? path).map (redact (depths.drop path.length))
  same : ∀ path found, ¬ Lost depths path → ¬ Covered depths path → ¬ Censors depths path →
    found.isLeaf = true ∨ 3 ≤ path.length → given.at? path = some found →
    sent.at? path = some found
  gone : ∀ path, Lost depths path ∨ Covered depths path → sent.at? path = none

theorem censoredByPlace (value : Json) : CensoredByPlace value (redact depths value) := by
  refine ⟨fun path => at?_redact_of_censors, fun path => at?_redact_of_not_censors, ?_, ?_⟩
  · intro path found hlost hcovered hcensors hsame hfound
    rw [at?_redact_of_not_censors hlost hcovered hcensors, hfound, Option.map_some,
      Option.some.injEq]
    rcases hsame with hleaf | hdeep
    · exact redact_of_isLeaf hleaf
    · rw [List.drop_eq_nil_of_le (show depths.length ≤ path.length from hdeep), redact_nil]
  · rintro path (hlost | hcovered)
    · exact at?_redact_of_lost hlost
    · exact at?_redact_of_covered hcovered

end Redaction

namespace Log

open Redaction

theorem joinList_nil_eq_flatten {α : Type} (pieces : List (List α)) :
    Text.joinList [] pieces = pieces.flatten := by
  induction pieces with
  | nil => rfl
  | cons piece pieces ih =>
    cases pieces with
    | nil => simp [Text.joinList]
    | cons next rest => simp [Text.joinList, ih]

theorem units_join_nil (texts : List Text) :
    (Text.join "" texts).units = texts.flatMap Text.units := by
  unfold Text.join
  rw [List.flatMap_def]
  exact joinList_nil_eq_flatten _

theorem units_written (name text : Text) : (written name text).units =
    Text.unit ',' :: quoteUnits name ++ Text.unit ':' :: text.units := by
  have hcomma : ("," : Text).units = [Text.unit ','] := by decide
  have hcolon : (":" : Text).units = [Text.unit ':'] := by decide
  have hname : (Json.string name).compact.units = quoteUnits name := rfl
  simp [written, Text.units_append, hcomma, hcolon, hname]

theorem compactMembers_eq (members : Members) : compactMembers members =
    members.flatMap (fun m => (written m.1 m.2.compact).units) ++ [Text.unit '\x7d'] := by
  induction members with
  | nil => rfl
  | cons m rest ih =>
    obtain ⟨name, value⟩ := m
    rw [compactMembers, ih, List.flatMap_cons, units_written, ← List.append_assoc]
    rfl

/-- The members of a log object with its secrets censored. -/
def censoredMembers (members : Members) : Members := (redact depths (.object members)).entries

theorem censoredMembers_cons (field : Text × Json) (rest : Members) :
    censoredMembers (field :: rest) = censoredMembers [field] ++ censoredMembers rest := by
  obtain ⟨name, value⟩ := field
  by_cases hname : name = reservedName <;>
    simp [censoredMembers, depths, redact, searched, entries, hname]

theorem units_redactedPart (field : Text × Json) : (redactedPart field).units =
    (censoredMembers [field]).flatMap fun m => (written m.1 m.2.compact).units := by
  unfold redactedPart censoredMembers
  rw [units_join_nil, List.flatMap_map]

theorem units_redactedParts (fields : Members) :
    (Text.join "" (fields.map redactedPart)).units =
      (censoredMembers fields).flatMap fun m => (written m.1 m.2.compact).units := by
  rw [units_join_nil, List.flatMap_map]
  induction fields with
  | nil => rfl
  | cons field rest ih =>
    rw [List.flatMap_cons, ih, units_redactedPart, ← List.flatMap_append, ← censoredMembers_cons]

/-- Whether a field is written with a name and a value of its own: its name means no operation, and
its value is the field's, told in full if errors are expected there. -/
def WrittenAs (field shown : Text × Json) : Prop :=
  shown.1 = field.1 ∧ operation? field.1 field.2 = none ∧
    (if field.1 = errorName then told? field.2 else some field.2) = some shown.2

theorem fieldPart_of_writtenAs {field shown : Text × Json} (h : WrittenAs field shown) :
    fieldPart field = .ok (redactedPart shown) := by
  obtain ⟨name, value⟩ := field
  obtain ⟨_, told⟩ := shown
  obtain ⟨rfl, hoperation, hvalue⟩ := h
  dsimp only at hoperation hvalue
  unfold fieldPart ordinaryPart
  simp only [hoperation]
  split_ifs at hvalue ⊢ with herror
  · simp only [hvalue]
  · rw [Option.some.inj hvalue]

theorem mapM_fieldPart {fields shown : Members} (h : List.Forall₂ WrittenAs fields shown) :
    fields.mapM fieldPart = .ok (shown.map redactedPart) := by
  induction h with
  | nil => rfl
  | cons hfield _ ih => simp [List.mapM_cons, fieldPart_of_writtenAs hfield, ih, pure, bind,
      Except.pure, Except.bind]

def lineObject (shown : Members) (message : Text) : Json :=
  .object (Members.single "level" (ofInt ordinaryLevel) ++ censoredMembers shown ++
    Members.single "msg" (.string message))

theorem compactUnits_lineObject (shown : Members) (message : Text) :
    compactUnits (lineObject shown message) =
      Text.unit '\x7b' :: quoteUnits "level" ++ Text.unit ':' ::
        compactUnits (ofInt ordinaryLevel) ++
          ((censoredMembers shown).flatMap (fun m => (written m.1 m.2.compact).units) ++
            ((written "msg" (Json.string message).compact).units ++ [Text.unit '\x7d'])) := by
  simp only [lineObject, List.cons_append, List.nil_append, compactUnits, compactMembers_eq,
    List.flatMap_append, List.flatMap_singleton, List.append_assoc]

/-- A line is the text of one object, of which everything but the level and the message has gone
through the censoring as a whole. -/
theorem line_of_writtenAs {fields shown : Members}
    (h : List.Forall₂ WrittenAs (gathered fields) shown) (message : Text) :
    line fields message = .ok (lineObject shown message).compact := by
  have hhead : ("\x7b\"level\":" : Text).units ++
      (Text.ofString (toString ordinaryLevel)).units =
        Text.unit '\x7b' :: quoteUnits "level" ++ Text.unit ':' ::
          compactUnits (ofInt ordinaryLevel) := by decide +kernel
  have hend : ("\x7d" : Text).units = [Text.unit '\x7d'] := by decide
  have htext : "\x7b\"level\":" ++ toString ordinaryLevel ++
      Text.join "" (shown.map redactedPart) ++ written "msg" (Json.string message).compact ++
        "\x7d" = (lineObject shown message).compact := by
    apply congrArg Text.mk
    rw [compactUnits_lineObject]
    simp only [Text.units_append, units_redactedParts, hhead, hend, List.append_assoc]
  unfold line
  rw [mapM_fieldPart h, ← htext]
  rfl

/-- What is logged is censored place by place.  A place is secret if it ends in one of all the names
of secrets at the first two depths, and in one of only four of them at the third.  The line is the
text of the censored object, whichever fields are written under their own names. -/
theorem secrets_censored_by_place (fields : Members) :
    CensoredByPlace (.object fields) (redact depths (.object fields)) ∧
    (∀ path, Censors depths path ↔ ∃ front name, path = front ++ [.member name] ∧
      (front.length < 2 ∧ name ∈ secretNames ∨ front.length = 2 ∧ name ∈ deepNames)) ∧
    ∀ (shown : Members) (message : Text), List.Forall₂ WrittenAs (gathered fields) shown →
      line fields message = .ok (lineObject shown message).compact :=
  ⟨censoredByPlace _, fun _ => censors_depths_iff, fun _ message h => line_of_writtenAs h message⟩

/-- A task whose token stands at the second depth, and the URL of its target at the third. -/
def taskFields : Members :=
  [("channel", .string "C1"), ("task", .object [("token", .string "xoxb-1"),
    ("target", .object [("url", .string "https://hooks.slack.com/services/T/B/X")])])]

/-- The token is censored and the URL is not, in what is logged and in the line. -/
theorem secrets_censored_by_place_of_taskFields :
    (redact depths (.object taskFields)).at? [.member "task", .member "token"] = some censored ∧
    (redact depths (.object taskFields)).at? [.member "task", .member "target", .member "url"] =
      some (.string "https://hooks.slack.com/services/T/B/X") ∧
    line taskFields "sent" = .ok ("\x7b\"level\":30,\"channel\":\"C1\",\"task\":\x7b" ++
      "\"token\":\"[REDACTED]\",\"target\":\x7b" ++
      "\"url\":\"https://hooks.slack.com/services/T/B/X\"\x7d\x7d,\"msg\":\"sent\"\x7d") := by
  obtain ⟨hplaces, -, hline⟩ := secrets_censored_by_place taskFields
  have hsame : List.Forall₂ WrittenAs (gathered taskFields) taskFields :=
    .cons ⟨rfl, rfl, rfl⟩ (.cons ⟨rfl, rfl, rfl⟩ .nil)
  refine ⟨?_, ?_, ?_⟩
  · rw [hplaces.secret _ (by decide) (by decide) (by decide)]
    rfl
  · exact hplaces.same _ _ (by decide) (by decide) (by decide) (Or.inl rfl) rfl
  · rw [hline taskFields "sent" hsame]
    decide +kernel

/-- All names of secrets are censored at the first two depths alone. -/
theorem deep_url_logged :
    ¬ ∀ (fields : Members) (front : List Branch) (name : Text) (found : Json),
      front.length < 3 → name ∈ secretNames → ¬ Covered depths (front ++ [.member name]) →
      (Json.object fields).at? (front ++ [.member name]) = some found →
      (redact depths (.object fields)).at? (front ++ [.member name]) = some censored := by
  intro hclaim
  have hurl := hclaim taskFields [.member "task", .member "target"] "url"
    (.string "https://hooks.slack.com/services/T/B/X") (by decide) (by decide) (by decide) rfl
  exact absurd hurl (by decide +kernel)

end Log

end SlackCourier
