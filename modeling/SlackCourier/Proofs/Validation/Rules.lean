import SlackCourier.Proofs.Task.Acceptance

/-!
# Rules for the fields of a record

A rule tells which values suit a field, absence included, and what a check says against the others.
A record that is checked field by field keeps to the rules of its fields: faulted is each field
whose value does not suit, in the order of the fields, with what is said against that value.
-/

namespace SlackCourier

/-- A field of a record: whether it has to be there, and which values fit it. -/
structure Field where
  name : Text
  isRequired : Bool
  fits : Json → Bool

/-- Whether a field may have a value or, where there is none, be missing. -/
def Field.suits (field : Field) : Option Json → Bool
  | none => !field.isRequired
  | some value => field.fits value

namespace Json

def isText : Json → Bool
  | .string _ => true
  | _ => false

def isFilledText : Json → Bool
  | .string s => s != ""
  | _ => false

def isTruth : Json → Bool
  | .bool _ => true
  | _ => false

def isWordOf (words : List Text) : Json → Bool
  | .string s => words.contains s
  | _ => false

def isListOf (fits : Json → Bool) : Json → Bool
  | .list items => items.all fits
  | _ => false

end Json

namespace Check

variable {α : Type}

/-- What a check says against a value, if it finds fault with it. -/
def blame (check : Check α) (given : Option Json) : Option (List Text) :=
  match check given with
  | .ok _ => none
  | .error messages => some messages

theorem blame_eq_none_iff {check : Check α} {given : Option Json} :
    check.blame given = none ↔ ∃ value, check given = .ok value := by
  unfold blame
  cases check given <;> simp

theorem blame_eq_some_iff {check : Check α} {given : Option Json} {messages : List Text} :
    check.blame given = some messages ↔ check given = .error messages := by
  unfold blame
  cases check given <;> simp

/-- Whether a check accepts exactly the values that suit a field, and says something against every
other. -/
structure Serves (check : Check α) (field : Field) : Prop where
  accepts : ∀ given, (∃ value, check given = .ok value) ↔ field.suits given = true
  speaks : ∀ given, check given ≠ .error []

variable {check : Check α} {name : Text} {fits : Json → Bool}

theorem serves_present {check : Json → Except (List Text) α}
    (hfits : ∀ value, (∃ part, check value = .ok part) ↔ fits value = true)
    (hspeaks : ∀ value, check value ≠ .error []) : (present check).Serves ⟨name, true, fits⟩ := by
  constructor
  · intro given
    cases given with
    | none => simp [present, Field.suits]
    | some value => exact hfits value
  · intro given
    cases given with
    | none => simp [present]
    | some value => exact hspeaks value

theorem serves_text : text.Serves ⟨name, true, Json.isText⟩ := by
  apply serves_present <;> intro value <;> cases value <;> simp [Json.isText]

theorem serves_truth : truth.Serves ⟨name, true, Json.isTruth⟩ := by
  apply serves_present <;> intro value <;> cases value <;> simp [Json.isTruth]

theorem serves_object : object.Serves ⟨name, true, Json.isObject⟩ := by
  apply serves_present <;> intro value <;> cases value <;> simp [Json.isObject, Json.members?]

theorem serves_choice (choices : List (Text × α)) :
    (choice choices).Serves ⟨name, true, Json.isWordOf (choices.map (·.1))⟩ := by
  apply serves_present
  · intro value
    cases value with
    | string s =>
      rw [Json.isWordOf, List.contains_iff_mem, Json.mem_names_iff]
      dsimp only
      cases choices.lookup s <;> simp
    | _ => simp [Json.isWordOf]
  · intro value
    cases value with
    | string s =>
      dsimp only
      cases choices.lookup s <;> simp
    | _ => simp

theorem serves_filledText (message : Text) :
    (textOfAtLeast 1 message).Serves ⟨name, true, Json.isFilledText⟩ := by
  have hstring : ∀ s : Text, textOfAtLeast 1 message (some (.string s)) =
      if s = "" then .error [message] else .ok s := by
    intro s
    simp only [← Text.length_eq_zero_iff, ← Nat.lt_one_iff]
    rfl
  constructor
  · intro given
    rcases given with - | - | - | - | s | - | -
    case some.string =>
      rw [hstring]
      split_ifs with hempty <;> simp [Field.suits, Json.isFilledText, hempty]
    all_goals simp [textOfAtLeast, text, present, Field.suits, Json.isFilledText]
  · intro given
    rcases given with - | - | - | - | s | - | -
    case some.string =>
      rw [hstring]
      split_ifs <;> simp
    all_goals simp [textOfAtLeast, text, present]

theorem gather_accepts_iff {outcomes : List (Except (List Text) α)} :
    (∃ values, gather outcomes = .ok values) ↔
      ∀ outcome ∈ outcomes, ∃ value, outcome = .ok value := by
  induction outcomes with
  | nil => simp [gather]
  | cons outcome rest ih =>
    rw [List.forall_mem_cons, ← ih, gather.eq_def]
    cases outcome <;> cases hrest : gather rest <;> simp [hrest]

theorem gather_speaks {outcomes : List (Except (List Text) α)}
    (h : ∀ outcome ∈ outcomes, outcome ≠ .error []) : gather outcomes ≠ .error [] := by
  induction outcomes with
  | nil => simp [gather]
  | cons outcome rest ih =>
    obtain ⟨houtcome, hrest⟩ := List.forall_mem_cons.1 h
    have hmore := ih hrest
    rw [gather.eq_def]
    cases outcome <;> cases hgather : gather rest <;> simp_all

theorem Serves.listOf (h : check.Serves ⟨name, true, fits⟩) :
    (listOf check).Serves ⟨name, true, Json.isListOf fits⟩ := by
  apply serves_present
  · intro value
    cases value with
    | list items =>
      rw [gather_accepts_iff, Json.isListOf, List.all_eq_true, List.forall_mem_map]
      exact forall₂_congr fun item _ => h.accepts (some item)
    | _ => simp [Json.isListOf]
  · intro value
    cases value with
    | list items =>
      apply gather_speaks
      rw [List.forall_mem_map]
      exact fun item _ => h.speaks (some item)
    | _ => simp

theorem Serves.optional (h : check.Serves ⟨name, true, fits⟩) :
    (optional check).Serves ⟨name, false, fits⟩ := by
  constructor
  · intro given
    cases given with
    | none => simp [Check.optional, Field.suits]
    | some value =>
      have haccepts := h.accepts (some value)
      unfold Check.optional
      cases hcheck : check (some value) <;> simp_all [Except.map, Field.suits]
  · intro given
    cases given with
    | none => simp [Check.optional]
    | some value =>
      have hspeaks := h.speaks (some value)
      unfold Check.optional
      cases hcheck : check (some value) <;> simp_all [Except.map]

theorem Serves.withDefault (h : check.Serves ⟨name, true, fits⟩) (value : α) :
    (withDefault value check).Serves ⟨name, false, fits⟩ := by
  constructor
  · intro given
    cases given with
    | none => simp [Check.withDefault, Field.suits]
    | some found => exact h.accepts (some found)
  · intro given
    cases given with
    | none => simp [Check.withDefault]
    | some found => exact h.speaks (some found)

end Check

/-- What holds for a field: which values suit it, and what is said against the others. -/
structure Rule where
  field : Field
  blame : Option Json → Option (List Text)
  accepts : ∀ given, blame given = none ↔ field.suits given = true
  speaks : ∀ given, blame given ≠ some []

namespace Rule

def ofCheck {α : Type} {check : Check α} (field : Field) (h : check.Serves field) : Rule where
  field := field
  blame := check.blame
  accepts given := Check.blame_eq_none_iff.trans (h.accepts given)
  speaks given hblame := h.speaks given (Check.blame_eq_some_iff.1 hblame)

/-- The fault of a record in a field: the field with what is said against its value. -/
def fault (rule : Rule) (members : Members) : Option (Text × List Text) :=
  (rule.blame (members.get? rule.field.name)).map fun messages => (rule.field.name, messages)

def faults (rules : List Rule) (members : Members) : List (Text × List Text) :=
  rules.flatMap fun rule => (rule.fault members).toList

theorem faults_cons (rule : Rule) (rules : List Rule) (members : Members) :
    faults (rule :: rules) members = (rule.fault members).toList ++ faults rules members := rfl

theorem fault_eq_none_iff {rule : Rule} {members : Members} :
    rule.fault members = none ↔ rule.field.suits (members.get? rule.field.name) = true := by
  rw [fault, Option.map_eq_none_iff, rule.accepts]

theorem faults_eq_nil_iff {rules : List Rule} {members : Members} :
    faults rules members = [] ↔
      ∀ rule ∈ rules, rule.field.suits (members.get? rule.field.name) = true := by
  rw [faults, List.flatMap_eq_nil_iff]
  apply forall₂_congr
  intro rule _
  rw [← fault_eq_none_iff, Option.toList_eq_nil_iff]

theorem names_faults (rules : List Rule) (members : Members) :
    (faults rules members).map (·.1) =
      ((rules.map (·.field)).filter fun field => !field.suits (members.get? field.name)).map
        (·.name) := by
  induction rules with
  | nil => rfl
  | cons rule rest ih =>
    rw [faults_cons, List.map_append, ih, List.map_cons, List.filter_cons]
    cases hfault : rule.fault members with
    | none => simp [fault_eq_none_iff.1 hfault]
    | some found =>
      have hsuits : rule.field.suits (members.get? rule.field.name) = false := by
        rw [← Bool.not_eq_true, ← fault_eq_none_iff, hfault]
        exact Option.some_ne_none found
      obtain ⟨messages, -, rfl⟩ := Option.map_eq_some_iff.1 hfault
      simp [hsuits]

theorem faults_speak {rules : List Rule} {members : Members} :
    ∀ found ∈ faults rules members, found.2 ≠ [] := by
  intro found hfound
  obtain ⟨rule, -, hfault⟩ := List.mem_flatMap.1 hfound
  obtain ⟨messages, hblame, rfl⟩ := Option.map_eq_some_iff.1 (Option.mem_toList.1 hfault)
  rintro rfl
  exact rule.speaks _ hblame

theorem lookup_fault (rule : Rule) (members : Members) (name : Text) :
    (rule.fault members).toList.lookup name =
      if name = rule.field.name then rule.blame (members.get? name) else none := by
  rw [fault]
  split_ifs with hname
  · rw [hname]
    cases rule.blame (members.get? rule.field.name) <;> simp
  · have hother : (name == rule.field.name) = false := by simpa using hname
    cases rule.blame (members.get? rule.field.name) <;> simp [List.lookup_cons, hother]

theorem lookup_faults_eq {members other : Members} {name : Text}
    (h : other.get? name = members.get? name) (rules : List Rule) :
    (faults rules other).lookup name = (faults rules members).lookup name := by
  induction rules with
  | nil => rfl
  | cons rule rest ih =>
    rw [faults_cons, faults_cons, List.lookup_append, List.lookup_append, lookup_fault,
      lookup_fault, h, ih]

end Rule

namespace Checked

variable {α β : Type}

def faults : Checked α → List (Text × List Text)
  | accepted _ => []
  | refused fields => fields

/-- Whether a record is refused with the faults that rules find, and accepted if they find none. -/
structure KeepsTo (record : Checked α) (rules : List Rule) (members : Members) : Prop where
  faults : record.faults = Rule.faults rules members
  refused : record ≠ .refused []

theorem keepsTo_accepted (value : α) (members : Members) : (accepted value).KeepsTo [] members :=
  ⟨rfl, nofun⟩

theorem faults_field (record : Checked (α → β)) (members : Members) {check : Check α}
    (field : Field) (hserves : check.Serves field) :
    (record.field members field.name check).faults =
      record.faults ++ ((Rule.ofCheck field hserves).fault members).toList := by
  unfold Checked.field Rule.fault Rule.ofCheck Check.blame
  cases record <;> cases hcheck : check (members.lookup field.name) <;>
    simp [Checked.faults, hcheck]

theorem KeepsTo.field {record : Checked (α → β)} {rules : List Rule} {members : Members}
    (h : record.KeepsTo rules members) {check : Check α} (field : Field)
    (hserves : check.Serves field) :
    (record.field members field.name check).KeepsTo (rules ++ [Rule.ofCheck field hserves])
      members := by
  constructor
  · rw [faults_field record members field hserves, h.faults, Rule.faults, Rule.faults,
      List.flatMap_append, List.flatMap_singleton]
  · have hrefused := h.refused
    unfold Checked.field
    cases record <;> cases check (members.lookup field.name) <;> simp_all

variable {record : Checked α} {rules : List Rule} {members : Members}

theorem KeepsTo.accepts_iff (h : record.KeepsTo rules members) :
    (∃ value, record = .accepted value) ↔
      ∀ field ∈ rules.map (·.field), field.suits (members.get? field.name) = true := by
  rw [List.forall_mem_map, ← Rule.faults_eq_nil_iff, ← h.faults]
  cases record with
  | accepted value => simp [Checked.faults]
  | refused fields =>
    have hfields : fields ≠ [] := fun hnil => h.refused (congrArg _ hnil)
    simp [Checked.faults, hfields]

theorem KeepsTo.faults_of_refused {fields : List (Text × List Text)}
    (h : record.KeepsTo rules members) (hrefused : record = .refused fields) :
    fields = Rule.faults rules members := by
  rw [← h.faults, hrefused]
  rfl

theorem KeepsTo.toField_speaks (h : record.KeepsTo rules members) : record.toField ≠ .error [] := by
  cases hrecord : record with
  | accepted value => simp [toField]
  | refused fields =>
    have hfields := h.faults_of_refused hrecord
    cases hfirst : fields with
    | nil => exact (h.refused (hfirst ▸ hrecord)).elim
    | cons first rest =>
      have hspeak : ∀ found ∈ Rule.faults rules members, found.2 ≠ [] := Rule.faults_speak
      rw [← hfields, hfirst, List.forall_mem_cons] at hspeak
      simp [toField, hspeak.1]

end Checked

end SlackCourier
