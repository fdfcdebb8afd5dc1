import SlackCourier.Proofs.Json.Members
import SlackCourier.Task.Defaults

/-!
# Accepted records

A record is accepted when every field is, and then each field of the task is what the check of that
field made of the member of its name.
-/

namespace SlackCourier

namespace Checked

variable {α β : Type}

theorem field_eq_accepted_iff {record : Checked (α → β)} {members : Members} {name : Text}
    {check : Check α} {value : β} :
    record.field members name check = .accepted value ↔
      ∃ build part, record = .accepted build ∧ check (members.lookup name) = .ok part ∧
        value = build part := by
  unfold field
  cases record with
  | refused fields => cases check (members.lookup name) <;> simp
  | accepted build =>
    cases check (members.lookup name) with
    | error messages => simp
    | ok part => simp [eq_comm]

@[simp] theorem toRecord_eq_ok_iff {record : Checked α} {value : α} :
    record.toRecord = .ok value ↔ record = .accepted value := by
  cases record <;> simp [toRecord]

theorem toField_eq_ok_iff {record : Checked α} {value : α} :
    record.toField = .ok value ↔ record = .accepted value := by
  cases record <;> simp [toField]

end Checked

namespace Check

@[simp] theorem text_eq_ok_iff {given : Option Json} {s : Text} :
    text given = .ok s ↔ given = some (.string s) := by
  cases given with
  | none => simp [text, present]
  | some value => cases value <;> simp [text, present]

theorem textOfAtLeast_eq_ok_iff {least : Nat} {message : Text} {given : Option Json} {s : Text} :
    textOfAtLeast least message given = .ok s ↔ given = some (.string s) ∧ least ≤ s.length := by
  unfold textOfAtLeast
  cases hgiven : text given with
  | error messages =>
    have hne : given ≠ some (.string s) := fun h => by
      rw [text_eq_ok_iff.2 h] at hgiven
      cases hgiven
    simp [hne]
  | ok found =>
    rw [text_eq_ok_iff] at hgiven
    subst hgiven
    simp only [Option.some.injEq, Json.string.injEq]
    split_ifs with hshort
    · simp only [false_iff, not_and]
      rintro rfl
      omega
    · simp only [Except.ok.injEq]
      constructor
      · rintro rfl
        exact ⟨rfl, by omega⟩
      · exact And.left

theorem optional_eq_ok_iff {α : Type} {check : Check α} {given : Option Json}
    {result : Option α} :
    optional check given = .ok result ↔
      (given = none ∧ result = none) ∨
        ∃ value part, given = some value ∧ check given = .ok part ∧ result = some part := by
  cases given with
  | none => simp [optional, eq_comm]
  | some value =>
    unfold optional
    cases hcheck : check (some value) <;> simp [Except.map, hcheck, eq_comm]

theorem gather_eq_ok {α : Type} {outcomes : List (Except (List Text) α)} {values : List α}
    (h : gather outcomes = .ok values) : outcomes = values.map .ok := by
  induction outcomes generalizing values with
  | nil =>
    rw [← Except.ok.inj h]
    rfl
  | cons outcome rest ih =>
    unfold gather at h
    split at h
    · rename_i value more hmore
      rw [← Except.ok.inj h, List.map_cons, ih hmore]
    · cases h
    · cases h
    · cases h

theorem gather_ok {α : Type} (values : List α) : gather (values.map .ok) = .ok values := by
  induction values with
  | nil => rfl
  | cons value rest ih => simp [gather, ih]

end Check

namespace Task

/-- What each field of an accepted task was made of. -/
structure Reads (members : Members) (task : Task) : Prop where
  token : Check.textOfAtLeast 1 "token is required" (members.get? "token") = .ok task.token
  domain : Check.optional Check.text (members.get? "domain") = .ok task.domain
  msg : Check.optional Check.text (members.get? "msg") = .ok task.msg
  channel : Check.optional Check.text (members.get? "channel") = .ok task.channel
  threadId : Check.optional Check.text (members.get? "threadId") = .ok task.threadId
  messageId : Check.optional Check.text (members.get? "messageId") = .ok task.messageId
  username : Check.optional Check.text (members.get? "username") = .ok task.username
  iconUrl : Check.optional Check.text (members.get? "iconUrl") = .ok task.iconUrl
  iconEmoji : Check.optional Check.text (members.get? "iconEmoji") = .ok task.iconEmoji
  linkNames : Check.withDefault (Double.ofNat 1) checkLinkNames (members.get? "linkNames") =
    .ok task.linkNames
  parse : Check.optional (Check.choice parseModes) (members.get? "parse") = .ok task.parse
  validateCerts : Check.withDefault true Check.truth (members.get? "validateCerts") =
    .ok task.validateCerts
  color : Check.withDefault Message.plainColor Check.text (members.get? "color") = .ok task.color
  attachments : Check.optional (Check.listOf Check.object) (members.get? "attachments") =
    .ok task.attachments
  blocks : Check.optional (Check.listOf Check.object) (members.get? "blocks") = .ok task.blocks
  prependHash : Check.optional (Check.choice hashPolicies) (members.get? "prependHash") =
    .ok task.prependHash
  uploadFile : Check.optional Upload.check (members.get? "uploadFile") = .ok task.uploadFile

theorem ofMembers_eq_accepted_iff {members : Members} {task : Task} :
    ofMembers members = .accepted task ↔ Reads members task := by
  unfold ofMembers
  constructor
  · intro h
    -- The last field is outermost, so the fields come off in reverse.
    obtain ⟨b17, p17, h, h17, e17⟩ := Checked.field_eq_accepted_iff.1 h
    obtain ⟨b16, p16, h, h16, e16⟩ := Checked.field_eq_accepted_iff.1 h
    obtain ⟨b15, p15, h, h15, e15⟩ := Checked.field_eq_accepted_iff.1 h
    obtain ⟨b14, p14, h, h14, e14⟩ := Checked.field_eq_accepted_iff.1 h
    obtain ⟨b13, p13, h, h13, e13⟩ := Checked.field_eq_accepted_iff.1 h
    obtain ⟨b12, p12, h, h12, e12⟩ := Checked.field_eq_accepted_iff.1 h
    obtain ⟨b11, p11, h, h11, e11⟩ := Checked.field_eq_accepted_iff.1 h
    obtain ⟨b10, p10, h, h10, e10⟩ := Checked.field_eq_accepted_iff.1 h
    obtain ⟨b9, p9, h, h9, e9⟩ := Checked.field_eq_accepted_iff.1 h
    obtain ⟨b8, p8, h, h8, e8⟩ := Checked.field_eq_accepted_iff.1 h
    obtain ⟨b7, p7, h, h7, e7⟩ := Checked.field_eq_accepted_iff.1 h
    obtain ⟨b6, p6, h, h6, e6⟩ := Checked.field_eq_accepted_iff.1 h
    obtain ⟨b5, p5, h, h5, e5⟩ := Checked.field_eq_accepted_iff.1 h
    obtain ⟨b4, p4, h, h4, e4⟩ := Checked.field_eq_accepted_iff.1 h
    obtain ⟨b3, p3, h, h3, e3⟩ := Checked.field_eq_accepted_iff.1 h
    obtain ⟨b2, p2, h, h2, e2⟩ := Checked.field_eq_accepted_iff.1 h
    obtain ⟨b1, p1, h, h1, e1⟩ := Checked.field_eq_accepted_iff.1 h
    have hmk := Checked.accepted.inj h
    have htask : task =
        Task.mk p1 p2 p3 p4 p5 p6 p7 p8 p9 p10 p11 p12 p13 p14 p15 p16 p17 := by
      rw [e17, e16, e15, e14, e13, e12, e11, e10, e9, e8, e7, e6, e5, e4, e3, e2, e1, ← hmk]
    rw [htask]
    exact ⟨h1, h2, h3, h4, h5, h6, h7, h8, h9, h10, h11, h12, h13, h14, h15, h16, h17⟩
  · intro h
    simp [Checked.field, h.token, h.domain, h.msg, h.channel, h.threadId, h.messageId, h.username,
      h.iconUrl, h.iconEmoji, h.linkNames, h.parse, h.validateCerts, h.color, h.attachments,
      h.blocks, h.prependHash, h.uploadFile]

namespace Defaults

theorem lookup_standIn (members : Members) (name other : Text) (value : Option Text) :
    (standIn members other value).lookup name =
      if name = other ∧ members.lookup other = none then value.map .string else none := by
  unfold standIn
  cases hgiven : members.lookup other with
  | some given => simp
  | none => simp [Members.lookup_optional]

theorem lookup_fill (defaults : Defaults) (members : Members) (name : Text) :
    (defaults.fill members).get? name = (members.get? name).or
      (if name = "token" then defaults.token.map .string
        else if name = "domain" then defaults.domain.map .string else none) := by
  show (defaults.fill members).lookup name = (members.lookup name).or _
  unfold fill
  rw [List.append_assoc, List.lookup_append, List.lookup_append, lookup_standIn, lookup_standIn]
  by_cases htoken : name = "token"
  · subst htoken
    cases members.lookup (Text.ofString "token") <;> simp
  · by_cases hdomain : name = "domain"
    · subst hdomain
      cases members.lookup (Text.ofString "domain") <;> simp
    · simp [htoken, hdomain]

end Defaults

end Task

end SlackCourier
