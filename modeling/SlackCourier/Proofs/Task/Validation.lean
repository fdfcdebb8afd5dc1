import SlackCourier.Proofs.Json.Alike
import SlackCourier.Proofs.Validation.Rewriting
import SlackCourier.Proofs.Validation.Rules

/-!
# How task records are validated

Whether a record is accepted as a task is decided field by field, and so is what is said against it.
An accepted task has only what its fields were made of, so members that are not known and the order
of members do not show in it; and a task that is written out is accepted again as it is.
-/

namespace SlackCourier

open Json

namespace Upload

def fields : List Field :=
  [⟨"path", true, isFilledText⟩, ⟨"filename", false, isText⟩, ⟨"altText", false, isText⟩,
    ⟨"snippetType", false, isText⟩, ⟨"initialComment", false, isText⟩, ⟨"threadTs", false, isText⟩,
    ⟨"title", false, isText⟩]

/-- Whether a value is an object in which each field suits. -/
def isRecord : Json → Bool
  | .object members => fields.all fun field => field.suits (Members.get? members field.name)
  | _ => false

theorem exists_rules : ∃ rules : List Rule, rules.map (·.field) = fields ∧
    ∀ members, ∃ record : Checked Upload, check (some (.object members)) = record.toField ∧
      record.KeepsTo rules members :=
  ⟨_, rfl, fun members => ⟨_, rfl, Checked.keepsTo_accepted Upload.mk members
    |>.field ⟨"path", true, isFilledText⟩ (Check.serves_filledText (Check.tooShort 1))
    |>.field ⟨"filename", false, isText⟩ Check.serves_text.optional
    |>.field ⟨"altText", false, isText⟩ Check.serves_text.optional
    |>.field ⟨"snippetType", false, isText⟩ Check.serves_text.optional
    |>.field ⟨"initialComment", false, isText⟩ Check.serves_text.optional
    |>.field ⟨"threadTs", false, isText⟩ Check.serves_text.optional
    |>.field ⟨"title", false, isText⟩ Check.serves_text.optional⟩⟩

theorem serves_check {name : Text} : check.Serves ⟨name, true, isRecord⟩ := by
  obtain ⟨rules, hrules, hkeeps⟩ := exists_rules
  apply Check.serves_present
  · intro value
    cases value with
    | object members =>
      obtain ⟨record, hrecord, hrecorded⟩ := hkeeps members
      have haccepts := hrecorded.accepts_iff
      simp only [hrules, ← Checked.toField_eq_ok_iff, ← hrecord] at haccepts
      rw [isRecord, List.all_eq_true, ← haccepts]
      exact Iff.rfl
    | _ => simp [isRecord]
  · intro value
    cases value with
    | object members =>
      obtain ⟨record, hrecord, hrecorded⟩ := hkeeps members
      have hspeaks := hrecorded.toField_speaks
      rw [← hrecord] at hspeaks
      exact hspeaks
    | _ => simp

/-- What each field of an upload was made of. -/
structure Reads (members : Members) (upload : Upload) : Prop where
  path : Check.textOfAtLeast 1 (Check.tooShort 1) (members.get? "path") = .ok upload.path
  filename : Check.optional Check.text (members.get? "filename") = .ok upload.filename
  altText : Check.optional Check.text (members.get? "altText") = .ok upload.altText
  snippetType : Check.optional Check.text (members.get? "snippetType") = .ok upload.snippetType
  initialComment : Check.optional Check.text (members.get? "initialComment") =
    .ok upload.initialComment
  threadTs : Check.optional Check.text (members.get? "threadTs") = .ok upload.threadTs
  title : Check.optional Check.text (members.get? "title") = .ok upload.title

theorem reads_of_accepted {members : Members} {upload : Upload}
    (h : check (some (.object members)) = .ok upload) : Reads members upload := by
  have haccepted := Checked.toField_eq_ok_iff.1 h
  obtain ⟨b7, p7, h, h7, e7⟩ := Checked.field_eq_accepted_iff.1 haccepted
  obtain ⟨b6, p6, h, h6, e6⟩ := Checked.field_eq_accepted_iff.1 h
  obtain ⟨b5, p5, h, h5, e5⟩ := Checked.field_eq_accepted_iff.1 h
  obtain ⟨b4, p4, h, h4, e4⟩ := Checked.field_eq_accepted_iff.1 h
  obtain ⟨b3, p3, h, h3, e3⟩ := Checked.field_eq_accepted_iff.1 h
  obtain ⟨b2, p2, h, h2, e2⟩ := Checked.field_eq_accepted_iff.1 h
  obtain ⟨b1, p1, h, h1, e1⟩ := Checked.field_eq_accepted_iff.1 h
  have hmk := Checked.accepted.inj h
  have hupload : upload = Upload.mk p1 p2 p3 p4 p5 p6 p7 := by
    rw [e7, e6, e5, e4, e3, e2, e1, ← hmk]
  rw [hupload]
  exact ⟨h1, h2, h3, h4, h5, h6, h7⟩

theorem check_eq_ok_iff {given : Option Json} {upload : Upload} :
    check given = .ok upload ↔
      ∃ members, given = some (.object members) ∧ Reads members upload := by
  constructor
  · intro h
    cases given with
    | none => cases h
    | some value =>
      cases value with
      | object members => exact ⟨members, rfl, reads_of_accepted h⟩
      | _ => cases h
  · rintro ⟨members, rfl, h⟩
    simp [check, Check.present, Checked.field, Checked.toField, h.path, h.filename, h.altText,
      h.snippetType, h.initialComment, h.threadTs, h.title]

/-- The places of an upload that is written out. -/
def places (upload : Upload) : List (Text × Option Json) :=
  [("path", some (.string upload.path)), ("filename", upload.filename.map .string),
    ("altText", upload.altText.map .string), ("snippetType", upload.snippetType.map .string),
    ("initialComment", upload.initialComment.map .string),
    ("threadTs", upload.threadTs.map .string), ("title", upload.title.map .string)]

theorem members_eq_lineUp (upload : Upload) : upload.members = Members.lineUp upload.places := by
  simp [members, places, Members.lineUp]

theorem nodup_names_places (upload : Upload) : (upload.places.map (·.1)).Nodup := by
  have hnames : (fields.map (·.name)).Nodup := by decide
  exact hnames

theorem Reads.again {members : Members} {upload : Upload} (h : Reads members upload) :
    Reads upload.members upload := by
  have hnames := upload.nodup_names_places
  rw [members_eq_lineUp]
  constructor
  · have hpath : (Members.lineUp upload.places).get? "path" = some (.string upload.path) :=
      Members.lookup_lineUp hnames (by simp [places])
    rw [hpath]
    exact (Check.isVerbatim_textOfAtLeast _ _).settles _ _ h.path
  · exact Check.isVerbatim_text.settles.lookup_lineUp hnames h.filename (by simp [places])
  · exact Check.isVerbatim_text.settles.lookup_lineUp hnames h.altText (by simp [places])
  · exact Check.isVerbatim_text.settles.lookup_lineUp hnames h.snippetType (by simp [places])
  · exact Check.isVerbatim_text.settles.lookup_lineUp hnames h.initialComment (by simp [places])
  · exact Check.isVerbatim_text.settles.lookup_lineUp hnames h.threadTs (by simp [places])
  · exact Check.isVerbatim_text.settles.lookup_lineUp hnames h.title (by simp [places])

theorem settles_check : check.Settles fun upload => .object upload.members := by
  intro given upload h
  obtain ⟨members, -, hreads⟩ := check_eq_ok_iff.1 h
  exact check_eq_ok_iff.2 ⟨_, rfl, hreads.again⟩

end Upload

namespace Task

/-- Whether a value is zero, of either sign, or one. -/
def isBit : Json → Bool
  | .number d => d == Double.zero || d == Double.ofCode true 0 || d == Double.ofNat 1
  | _ => false

def fields : List Field :=
  [⟨"token", true, isFilledText⟩, ⟨"domain", false, isText⟩, ⟨"msg", false, isText⟩,
    ⟨"channel", false, isText⟩, ⟨"threadId", false, isText⟩, ⟨"messageId", false, isText⟩,
    ⟨"username", false, isText⟩, ⟨"iconUrl", false, isText⟩, ⟨"iconEmoji", false, isText⟩,
    ⟨"linkNames", false, isBit⟩, ⟨"parse", false, isWordOf ["full", "none"]⟩,
    ⟨"validateCerts", false, isTruth⟩, ⟨"color", false, isText⟩,
    ⟨"attachments", false, isListOf isObject⟩, ⟨"blocks", false, isListOf isObject⟩,
    ⟨"prependHash", false, isWordOf ["always", "never", "auto"]⟩,
    ⟨"uploadFile", false, Upload.isRecord⟩]

theorem isBit_number (d : Double) :
    isBit (.number d) = (d.sameValue Double.zero || d.sameValue (Double.ofNat 1)) := by
  have hone : (Double.ofNat 1).code ≠ 0 := by decide
  rw [Bool.eq_iff_iff]
  simp [isBit, Double.sameValue_zero_iff, Double.sameValue_iff_of_ne_zero hone]

theorem serves_checkLinkNames {name : Text} : checkLinkNames.Serves ⟨name, true, isBit⟩ := by
  apply Check.serves_present
  · intro value
    cases value with
    | number d =>
      dsimp only
      rw [isBit_number]
      split_ifs with hbit <;> simp [hbit]
    | _ => simp [isBit]
  · intro value
    cases value with
    | number d =>
      dsimp only
      split_ifs <;> simp
    | _ => simp

theorem isVerbatim_checkLinkNames : checkLinkNames.IsVerbatim .number := by
  intro given d h
  cases given with
  | none => cases h
  | some value =>
    cases value with
    | number e =>
      unfold checkLinkNames Check.present at h
      dsimp only at h
      split_ifs at h
      rw [Except.ok.inj h]
    | _ => cases h

theorem exists_rules : ∃ rules : List Rule, rules.map (·.field) = fields ∧
    ∀ members, (ofMembers members).KeepsTo rules members :=
  ⟨_, rfl, fun members => Checked.keepsTo_accepted Task.mk members
    |>.field ⟨"token", true, isFilledText⟩ (Check.serves_filledText "token is required")
    |>.field ⟨"domain", false, isText⟩ Check.serves_text.optional
    |>.field ⟨"msg", false, isText⟩ Check.serves_text.optional
    |>.field ⟨"channel", false, isText⟩ Check.serves_text.optional
    |>.field ⟨"threadId", false, isText⟩ Check.serves_text.optional
    |>.field ⟨"messageId", false, isText⟩ Check.serves_text.optional
    |>.field ⟨"username", false, isText⟩ Check.serves_text.optional
    |>.field ⟨"iconUrl", false, isText⟩ Check.serves_text.optional
    |>.field ⟨"iconEmoji", false, isText⟩ Check.serves_text.optional
    |>.field ⟨"linkNames", false, isBit⟩ (serves_checkLinkNames.withDefault (Double.ofNat 1))
    |>.field ⟨"parse", false, isWordOf ["full", "none"]⟩ (Check.serves_choice parseModes).optional
    |>.field ⟨"validateCerts", false, isTruth⟩ (Check.serves_truth.withDefault true)
    |>.field ⟨"color", false, isText⟩ (Check.serves_text.withDefault Message.plainColor)
    |>.field ⟨"attachments", false, isListOf isObject⟩ Check.serves_object.listOf.optional
    |>.field ⟨"blocks", false, isListOf isObject⟩ Check.serves_object.listOf.optional
    |>.field ⟨"prependHash", false, isWordOf ["always", "never", "auto"]⟩
      (Check.serves_choice hashPolicies).optional
    |>.field ⟨"uploadFile", false, Upload.isRecord⟩ Upload.serves_check.optional⟩

/-- The places of a task that is written out. -/
def places (task : Task) : List (Text × Option Json) :=
  [("token", some (.string task.token)), ("domain", task.domain.map .string),
    ("msg", task.msg.map .string), ("channel", task.channel.map .string),
    ("threadId", task.threadId.map .string), ("messageId", task.messageId.map .string),
    ("username", task.username.map .string), ("iconUrl", task.iconUrl.map .string),
    ("iconEmoji", task.iconEmoji.map .string), ("linkNames", some (.number task.linkNames)),
    ("parse", task.parse.map fun mode => .string mode.name),
    ("validateCerts", some (.bool task.validateCerts)), ("color", some (.string task.color)),
    ("attachments", task.attachments.map trees), ("blocks", task.blocks.map trees),
    ("prependHash", task.prependHash.map fun policy => .string policy.name),
    ("uploadFile", task.uploadFile.map fun upload => .object upload.members)]

theorem members_eq_lineUp (task : Task) : task.members = Members.lineUp task.places := by
  simp [members, places, Members.lineUp]

theorem nodup_names_places (task : Task) : (task.places.map (·.1)).Nodup := by
  have hnames : (fields.map (·.name)).Nodup := by decide
  exact hnames

theorem get?_members {task : Task} {name : Text} {value : Option Json}
    (h : (name, value) ∈ task.places) : task.members.get? name = value := by
  rw [members_eq_lineUp]
  exact Members.lookup_lineUp task.nodup_names_places h

theorem Reads.again {members : Members} {task : Task} (h : Reads members task) :
    Reads task.members task := by
  have hnames := task.nodup_names_places
  have hmode : (Check.choice parseModes).IsVerbatim fun mode => .string mode.name :=
    Check.isVerbatim_choice (by simp [parseModes])
  have hpolicy : (Check.choice hashPolicies).IsVerbatim fun policy => .string policy.name :=
    Check.isVerbatim_choice (by simp [hashPolicies])
  have htrees : (Check.listOf Check.object).Settles trees := Check.settles_object.listOf
  have htext : ∀ {name : Text} {part : Option Text},
      Check.optional Check.text (members.get? name) = .ok part →
      (name, part.map .string) ∈ task.places →
      Check.optional Check.text (task.members.get? name) = .ok part := by
    intro name part hpart hplace
    rw [members_eq_lineUp]
    exact Check.isVerbatim_text.settles.lookup_lineUp hnames hpart hplace
  constructor
  · have htoken : task.members.get? "token" = some (.string task.token) :=
      get?_members (by simp [places])
    rw [htoken]
    exact (Check.isVerbatim_textOfAtLeast _ _).settles _ _ h.token
  · exact htext h.domain (by simp [places])
  · exact htext h.msg (by simp [places])
  · exact htext h.channel (by simp [places])
  · exact htext h.threadId (by simp [places])
  · exact htext h.messageId (by simp [places])
  · exact htext h.username (by simp [places])
  · exact htext h.iconUrl (by simp [places])
  · exact htext h.iconEmoji (by simp [places])
  · have hlinks : task.members.get? "linkNames" = some (.number task.linkNames) :=
      get?_members (by simp [places])
    rw [hlinks]
    exact isVerbatim_checkLinkNames.settles.withDefault (by decide) h.linkNames
  · rw [members_eq_lineUp]
    exact hmode.settles.lookup_lineUp hnames h.parse (by simp [places])
  · have hcerts : task.members.get? "validateCerts" = some (.bool task.validateCerts) :=
      get?_members (by simp [places])
    rw [hcerts]
    exact Check.isVerbatim_truth.settles.withDefault rfl h.validateCerts
  · have hcolor : task.members.get? "color" = some (.string task.color) :=
      get?_members (by simp [places])
    rw [hcolor]
    exact Check.isVerbatim_text.settles.withDefault rfl h.color
  · rw [members_eq_lineUp]
    exact htrees.lookup_lineUp hnames h.attachments (by simp [places])
  · rw [members_eq_lineUp]
    exact htrees.lookup_lineUp hnames h.blocks (by simp [places])
  · rw [members_eq_lineUp]
    exact hpolicy.settles.lookup_lineUp hnames h.prependHash (by simp [places])
  · rw [members_eq_lineUp]
    exact Upload.settles_check.lookup_lineUp hnames h.uploadFile (by simp [places])

/-- Whether what is given to upload is the same, or differs in members that are not known. -/
inductive UploadsAgree : Option Json → Option Json → Prop
  | refl (given : Option Json) : UploadsAgree given given
  | objects {as bs : Members} :
      (∀ field ∈ Upload.fields, as.get? field.name = bs.get? field.name) →
      UploadsAgree (some (.object as)) (some (.object bs))

/-- Whether two records differ only in members that are not known, their own or their upload's. -/
structure RecordsAgree (other members : Members) : Prop where
  known : ∀ field ∈ fields, field.name ≠ "uploadFile" →
    other.get? field.name = members.get? field.name
  upload : UploadsAgree (other.get? "uploadFile") (members.get? "uploadFile")

theorem UploadsAgree.check_eq {given found : Option Json} (h : UploadsAgree given found) :
    Check.optional Upload.check given = Check.optional Upload.check found := by
  cases h with
  | refl => rfl
  | objects hfields =>
    simp only [Upload.fields, List.forall_mem_cons] at hfields
    obtain ⟨h1, h2, h3, h4, h5, h6, h7, -⟩ := hfields
    simp only [Check.optional, Upload.check, Check.present, Checked.field, h1, h2, h3, h4, h5, h6,
      h7]

theorem ofMembers_eq_of_agree {other members : Members} (h : RecordsAgree other members) :
    ofMembers other = ofMembers members := by
  have hupload := h.upload.check_eq
  have hfields := h.known
  simp only [fields, List.forall_mem_cons, ne_eq, Text.ofString_inj, String.reduceEq,
    not_false_eq_true, true_implies] at hfields
  obtain ⟨h1, h2, h3, h4, h5, h6, h7, h8, h9, h10, h11, h12, h13, h14, h15, h16, -⟩ := hfields
  simp only [ofMembers, Checked.field, h1, h2, h3, h4, h5, h6, h7, h8, h9, h10, h11, h12, h13, h14,
    h15, h16, hupload]

theorem recordsAgree_of_perm {other members : Members} (hnames : (members.map (·.1)).Nodup)
    (h : members.Perm other) : RecordsAgree other members := by
  have hlookup := lookup_eq_of_perm hnames h
  refine ⟨fun field _ _ => (hlookup field.name).symm, ?_⟩
  rw [Members.get?, Members.get?, hlookup]
  exact .refl _

section

variable {members other : Members} {refusal refused : Refusal} {task : Task}

theorem ofJson_object_eq_ok_iff :
    ofJson (some (.object members)) = .ok task ↔ Reads members task :=
  Checked.toRecord_eq_ok_iff.trans ofMembers_eq_accepted_iff

theorem refused_of_ofJson (h : ofJson (some (.object members)) = .error refusal) :
    refusal.formErrors = [] ∧ ofMembers members = .refused refusal.fieldErrors := by
  cases hrecord : ofMembers members with
  | accepted task =>
    have hok : ofJson (some (.object members)) = .ok task := Checked.toRecord_eq_ok_iff.2 hrecord
    rw [hok] at h
    cases h
  | refused faults =>
    have herror : ofJson (some (.object members)) = .error ⟨[], faults⟩ := by
      rw [ofJson, hrecord]
      rfl
    rw [herror] at h
    cases h
    exact ⟨rfl, rfl⟩

theorem exists_ofJson_iff : (∃ task, ofJson (some (.object members)) = .ok task) ↔
    ∀ field ∈ fields, field.suits (members.get? field.name) = true := by
  obtain ⟨rules, hrules, hkeeps⟩ := exists_rules
  have haccepts := (hkeeps members).accepts_iff
  rw [hrules] at haccepts
  rw [← haccepts]
  exact exists_congr fun task => Checked.toRecord_eq_ok_iff

theorem names_of_refused (h : ofJson (some (.object members)) = .error refusal) :
    refusal.fieldErrors.map (·.1) =
      (fields.filter fun field => !field.suits (members.get? field.name)).map (·.name) ∧
    ∀ fault ∈ refusal.fieldErrors, fault.2 ≠ [] := by
  obtain ⟨rules, hrules, hkeeps⟩ := exists_rules
  have hfaults := (hkeeps members).faults_of_refused (refused_of_ofJson h).2
  rw [hfaults]
  refine ⟨?_, Rule.faults_speak⟩
  rw [← hrules]
  exact Rule.names_faults rules members

theorem messages_of_refused (h : ofJson (some (.object members)) = .error refusal)
    (hother : ofJson (some (.object other)) = .error refused) {name : Text}
    (hname : other.get? name = members.get? name) :
    refused.fieldErrors.lookup name = refusal.fieldErrors.lookup name := by
  obtain ⟨rules, -, hkeeps⟩ := exists_rules
  rw [(hkeeps members).faults_of_refused (refused_of_ofJson h).2,
    (hkeeps other).faults_of_refused (refused_of_ofJson hother).2]
  exact Rule.lookup_faults_eq hname rules

theorem dropReserved_of_accepted {given : Option Json} {list : Option (List Members)}
    (h : Check.optional (Check.listOf Check.object) given = .ok list) :
    list.map trees = given.map dropReserved := by
  rcases Check.optional_eq_ok_iff.1 h with ⟨rfl, rfl⟩ | ⟨value, found, rfl, hfound, rfl⟩
  · rfl
  · exact congrArg some (Check.listOf_object_eq_dropReserved hfound)

/-- An accepted task that is written out has what was given, with the defaults where nothing was. -/
theorem defaults_of_reads (h : Reads members task) :
    task.members.get? "linkNames" =
      some ((members.get? "linkNames").getD (.number (Double.ofNat 1))) ∧
    task.members.get? "validateCerts" =
      some ((members.get? "validateCerts").getD (.bool true)) ∧
    task.members.get? "color" = some ((members.get? "color").getD (.string "normal")) := by
  refine ⟨?_, ?_, ?_⟩
  · rw [← isVerbatim_checkLinkNames.withDefault h.linkNames]
    exact get?_members (by simp [places])
  · rw [← Check.isVerbatim_truth.withDefault h.validateCerts]
    exact get?_members (by simp [places])
  · have hcolor := Check.isVerbatim_text.withDefault h.color
    rw [show (Json.string "normal") = .string Message.plainColor from rfl, ← hcolor]
    exact get?_members (by simp [places])

theorem trees_of_reads (h : Reads members task) :
    ∀ name ∈ (["attachments", "blocks"] : List Text),
      task.members.get? name = (members.get? name).map dropReserved := by
  simp only [List.forall_mem_cons, List.not_mem_nil, false_implies, implies_true, and_true]
  constructor
  · rw [← dropReserved_of_accepted h.attachments]
    exact get?_members (by simp [places])
  · rw [← dropReserved_of_accepted h.blocks]
    exact get?_members (by simp [places])

end

/-- A record is accepted exactly if each field suits; else told is each field that does not, with
messages that its value alone decides.  What is accepted does not show members that are not known
nor the order of members; it has the three defaults, and the trees that were given without what is
reserved in them; and written out it is accepted again as the same. -/
theorem validation_by_fields (members : Members) :
    ((∃ task, ofJson (some (.object members)) = .ok task) ↔
      ∀ field ∈ fields, field.suits (members.get? field.name) = true) ∧
    (∀ refusal, ofJson (some (.object members)) = .error refusal →
      refusal.formErrors = [] ∧
      refusal.fieldErrors.map (·.1) =
        (fields.filter fun field => !field.suits (members.get? field.name)).map (·.name) ∧
      (∀ fault ∈ refusal.fieldErrors, fault.2 ≠ []) ∧
      ∀ (other : Members) (refused : Refusal) (name : Text),
        ofJson (some (.object other)) = .error refused → other.get? name = members.get? name →
        refused.fieldErrors.lookup name = refusal.fieldErrors.lookup name) ∧
    ∀ task, ofJson (some (.object members)) = .ok task →
      (∀ other, RecordsAgree other members → ofJson (some (.object other)) = .ok task) ∧
      (∀ other, (members.map (·.1)).Nodup → members.Perm other →
        ofJson (some (.object other)) = .ok task) ∧
      (task.members.get? "linkNames" =
          some ((members.get? "linkNames").getD (.number (Double.ofNat 1))) ∧
        task.members.get? "validateCerts" =
          some ((members.get? "validateCerts").getD (.bool true)) ∧
        task.members.get? "color" = some ((members.get? "color").getD (.string "normal"))) ∧
      (∀ name ∈ (["attachments", "blocks"] : List Text),
        task.members.get? name = (members.get? name).map dropReserved ∧
        ∀ (value : Json) (path : List Branch), members.get? name = some value →
          (task.members.get? name).bind (fun kept => kept.at? path) =
            if isReservedPath path then none else (value.at? path).map dropReserved) ∧
      ofJson (some (.object task.members)) = .ok task := by
  refine ⟨exists_ofJson_iff, ?_, ?_⟩
  · intro refusal h
    obtain ⟨hnames, hspeak⟩ := names_of_refused h
    exact ⟨(refused_of_ofJson h).1, hnames, hspeak,
      fun other refused name hother hname => messages_of_refused h hother hname⟩
  · intro task h
    have hreads := ofJson_object_eq_ok_iff.1 h
    have hagree : ∀ other, RecordsAgree other members →
        ofJson (some (.object other)) = .ok task := by
      intro other hother
      rw [ofJson, ofMembers_eq_of_agree hother]
      exact h
    refine ⟨hagree, fun other hnames hperm => hagree other (recordsAgree_of_perm hnames hperm),
      defaults_of_reads hreads, ?_, ?_⟩
    · intro name hname
      have htrees := trees_of_reads hreads name hname
      refine ⟨htrees, fun value path hvalue => ?_⟩
      rw [htrees, hvalue]
      exact at?_dropReserved value path
    · exact ofJson_object_eq_ok_iff.2 hreads.again

/-- A record with members that are not known and a reserved one in an attachment. -/
def clutteredRecord : Members :=
  [("extra", .null), ("token", .string "xoxb-1"),
    ("attachments", .list [.object [("__proto__", .null), ("text", .string "a")]]),
    ("uploadFile", .object [("size", .number (Double.ofNat 1)), ("path", .string "a.txt")])]

theorem validation_by_fields_of_clutteredRecord :
    ∃ task, ofJson (some (.object clutteredRecord)) = .ok task ∧
      task.members.get? "attachments" = some (.list [.object [("text", .string "a")]]) ∧
      ofJson (some (.object task.members)) = .ok task := by
  obtain ⟨haccepts, -, houtput⟩ := validation_by_fields clutteredRecord
  obtain ⟨task, htask⟩ := haccepts.2 (by decide +kernel)
  obtain ⟨-, -, -, htrees, hagain⟩ := houtput task htask
  have hattachments := (htrees "attachments" (by simp)).1
  exact ⟨task, htask, hattachments.trans (by decide +kernel), hagain⟩

end Task

end SlackCourier
