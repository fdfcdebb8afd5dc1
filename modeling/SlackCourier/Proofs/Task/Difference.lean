import SlackCourier.Proofs.Json.Alike
import SlackCourier.Proofs.Json.Reading
import SlackCourier.Proofs.Task.Convergence

/-!
# When a message differs from an edit

A message differs from a task exactly if under one of the six compared names what the message has is
not alike to what the task asks for.  So the order of members does not matter, nor does anything
that is not compared; and where the two agree under a name, to change one side there is to make them
differ.
-/

namespace SlackCourier.Task

open Json

variable {task other : Task} {message answer : Members}

/-- A task that some record was accepted as, no object in it having two members of one name. -/
def IsParsed (task : Task) : Prop :=
  ∃ record : Members, (Json.object record).isUnambiguous = true ∧ ofMembers record = .accepted task

/-- What a message has and what a task asks for, pair by pair, in what is compared. -/
def pairs (task : Task) (message : Members) : List (Option Json × Option Json) :=
  [(message.get? "icon_url", task.iconUrl.map .string),
    (message.get? "icon_emoji", task.iconEmoji.map .string),
    (message.get? "link_names", some (.number task.linkNames)),
    (message.get? "color", some (.string task.color)),
    (message.get? "attachments", task.attachments.map trees),
    (message.get? "blocks", task.blocks.map trees)]

def comparedNames : List Text :=
  ["icon_url", "icon_emoji", "link_names", "color", "attachments", "blocks"]

/-- Whether a task asks for the same as another in what is compared, up to the order of members of
objects in its attachments and blocks. -/
structure AsksLike (other task : Task) : Prop where
  iconUrl : other.iconUrl = task.iconUrl
  iconEmoji : other.iconEmoji = task.iconEmoji
  linkNames : other.linkNames = task.linkNames
  color : other.color = task.color
  attachments : Option.Rel Rearranged (task.attachments.map trees) (other.attachments.map trees)
  blocks : Option.Rel Rearranged (task.blocks.map trees) (other.blocks.map trees)

/-- Whether the lists of a task have no object with two members of one name. -/
structure HasClearLists (task : Task) : Prop where
  attachments : IsClear (task.attachments.map trees)
  blocks : IsClear (task.blocks.map trees)

theorem isClear_trees {list : Option (List Members)}
    (h : ∀ found, list = some found → ∀ a ∈ found, isUnambiguousMembers a = true) :
    IsClear (list.map trees) := by
  intro value hvalue
  obtain ⟨found, hfound, rfl⟩ := Option.map_eq_some_iff.1 hvalue
  refine isUnambiguousItems_iff.2 fun item hitem => ?_
  obtain ⟨a, ha, rfl⟩ := List.mem_map.1 hitem
  exact h found hfound a ha

theorem IsParsed.hasClearLists (h : task.IsParsed) : task.HasClearLists := by
  obtain ⟨record, hrecord, haccepted⟩ := h
  have hreads := ofMembers_eq_accepted_iff.1 haccepted
  constructor
  · apply isClear_trees
    intro list hlist a ha
    exact (clean_of_accepted hrecord (hlist ▸ hreads.attachments) a ha).2
  · apply isClear_trees
    intro list hlist a ha
    exact (clean_of_accepted hrecord (hlist ▸ hreads.blocks) a ha).2

theorem isClear_get? (h : (Json.object message).isUnambiguous = true) (name : Text) :
    IsClear (message.get? name) := fun _ hvalue => isUnambiguous_of_lookup h hvalue

theorem isClear_asked (h : task.HasClearLists) {entry : Text × Option Json}
    (hentry : entry ∈ task.compared) : IsClear entry.2 := by
  have hstring : ∀ text : Option Text, IsClear (text.map .string) := by
    intro text value hvalue
    obtain ⟨s, -, rfl⟩ := Option.map_eq_some_iff.1 hvalue
    rfl
  have hnumber : IsClear (some (.number task.linkNames)) := by
    rintro value ⟨⟩
    rfl
  simp only [compared, List.mem_cons, List.not_mem_nil, or_false] at hentry
  rcases hentry with rfl | rfl | rfl | rfl | rfl | rfl
  · exact hstring task.iconUrl
  · exact hstring task.iconEmoji
  · exact hnumber
  · exact hstring (some task.color)
  · exact h.attachments
  · exact h.blocks

theorem pairs_eq_map (task : Task) (message : Members) :
    task.pairs message = task.compared.map fun entry => (message.get? entry.1, entry.2) := rfl

theorem changes_eq_false_iff_agree (htask : task.HasClearLists)
    (hmessage : (Json.object message).isUnambiguous = true) :
    task.changes message = false ↔ ∀ pair ∈ task.pairs message, Agree pair.1 pair.2 := by
  rw [changes_eq_false_iff, pairs_eq_map, List.forall_mem_map]
  apply forall₂_congr
  intro entry hentry
  exact sameOption_iff_agree (isClear_get? hmessage entry.1) (isClear_asked htask hentry)

theorem forall_agree_iff {as bs : List (Option Json × Option Json)}
    (h : List.Forall₂ (fun p q => Agree p.1 q.1 ∧ Agree p.2 q.2) as bs) :
    (∀ pair ∈ as, Agree pair.1 pair.2) ↔ ∀ pair ∈ bs, Agree pair.1 pair.2 := by
  induction h with
  | nil => exact Iff.rfl
  | cons hsides _ ih =>
    rw [List.forall_mem_cons, List.forall_mem_cons, ih, hsides.1.congr hsides.2]

theorem changes_eq_of_agree (htask : task.HasClearLists) (hother : other.HasClearLists)
    (hmessage : (Json.object message).isUnambiguous = true)
    (hanswer : (Json.object answer).isUnambiguous = true)
    (h : List.Forall₂ (fun p q => Agree p.1 q.1 ∧ Agree p.2 q.2) (task.pairs message)
      (other.pairs answer)) :
    other.changes answer = task.changes message := by
  rw [Bool.eq_iff_iff, ← not_iff_not, Bool.not_eq_true, Bool.not_eq_true,
    changes_eq_false_iff_agree hother hanswer, changes_eq_false_iff_agree htask hmessage,
    forall_agree_iff h]

theorem changes_eq_of_get? (htask : task.HasClearLists)
    (hmessage : (Json.object message).isUnambiguous = true)
    (hanswer : (Json.object answer).isUnambiguous = true)
    (h : ∀ name ∈ comparedNames, Agree (message.get? name) (answer.get? name)) :
    task.changes answer = task.changes message := by
  apply changes_eq_of_agree htask htask hmessage hanswer
  rw [pairs_eq_map, pairs_eq_map, List.forall₂_map_left_iff, List.forall₂_map_right_iff,
    List.forall₂_same]
  intro entry hentry
  have hname : entry.1 ∈ comparedNames := List.mem_map_of_mem (f := (·.1)) hentry
  exact ⟨h entry.1 hname, .refl entry.2⟩

theorem changes_eq_of_rearranged (htask : task.HasClearLists)
    (hmessage : (Json.object message).isUnambiguous = true)
    (h : Rearranged (.object message) (.object answer)) :
    task.changes answer = task.changes message := by
  obtain ⟨halike, hanswer⟩ := h.alike hmessage
  exact changes_eq_of_get? htask hmessage hanswer fun name _ => halike.lookup name

theorem changes_eq_of_asksLike (htask : task.HasClearLists)
    (hmessage : (Json.object message).isUnambiguous = true) (h : other.AsksLike task) :
    other.changes message = task.changes message := by
  obtain ⟨hattachments, hattached⟩ := agree_of_rearranged h.attachments htask.attachments
  obtain ⟨hblocks, hlaid⟩ := agree_of_rearranged h.blocks htask.blocks
  apply changes_eq_of_agree htask ⟨hattached, hlaid⟩ hmessage hmessage
  rw [pairs, pairs, h.iconUrl, h.iconEmoji, h.linkNames, h.color]
  have hsame : ∀ found asked : Option Json, Agree found found ∧ Agree asked asked :=
    fun found asked => ⟨.refl found, .refl asked⟩
  exact .cons (hsame ..) (.cons (hsame ..) (.cons (hsame ..) (.cons (hsame ..)
    (.cons ⟨.refl _, hattachments⟩ (.cons ⟨.refl _, hblocks⟩ .nil)))))

/-- Where a message and a task agree, another message and task differ if they have one side of the
pair in common and not the other. -/
theorem changes_of_one_side (hother : other.HasClearLists)
    (hanswer : (Json.object answer).isUnambiguous = true) {index : Nat}
    {found asked found' asked' : Option Json} (hagree : Agree found asked)
    (hpair : (other.pairs answer)[index]? = some (found', asked'))
    (hside : (asked' = asked ∧ ¬ Agree found found') ∨ (found' = found ∧ ¬ Agree asked asked')) :
    other.changes answer = true := by
  rw [← Bool.not_eq_false, changes_eq_false_iff_agree hother hanswer]
  intro hall
  have hagree' : Agree found' asked' := hall _ (List.mem_of_getElem? hpair)
  rcases hside with ⟨rfl, hchanged⟩ | ⟨rfl, hchanged⟩
  · exact hchanged (hagree.trans hagree'.symm)
  · exact hchanged (hagree.symm.trans hagree')

/-- A task that is read from text has no object with two members of one name behind it. -/
theorem isParsed_of_parse {text : Text} {record : Members}
    (h : Json.parse text = some (.object record)) (htask : ofMembers record = .accepted task) :
    task.IsParsed :=
  ⟨record, isUnambiguous_of_parse h, htask⟩

/-- A message that is found has no object with two members of one name in it. -/
theorem isUnambiguous_of_find {token channel ts : Text} {insecure : Bool} {world : World}
    (h : (Message.find token channel ts insecure world).result = .ok message) :
    (Json.object message).isUnambiguous = true := by
  obtain ⟨response, raw, -, ⟨-, body, shown, -, hparse, -, hmessages⟩, rfl⟩ :=
    Message.find_eq_ok_iff.1 h
  have hlist : (Json.list [.object raw]).isUnambiguous = true :=
    isUnambiguous_of_lookup (isUnambiguous_of_parse hparse) hmessages
  have hraw : (Json.object raw).isUnambiguous = true :=
    isUnambiguousItems_iff.1 hlist _ (List.mem_singleton_self _)
  exact isUnambiguousMembers_dropReservedMembers hraw

/-- An edit that was read from text would leave the message that it finds as it is exactly if the
six pairs agree: nothing more has to be known of either. -/
theorem changes_found_iff {text : Text} {record : Members} {channel ts : Text} {world : World}
    (hparse : Json.parse text = some (.object record)) (htask : ofMembers record = .accepted task)
    (hfind : (Message.find task.token channel ts task.insecure world).result = .ok message) :
    task.changes message = false ↔
      ∀ pair ∈ task.pairs message, Option.Rel Alike pair.1 pair.2 :=
  changes_eq_false_iff_agree (isParsed_of_parse hparse htask).hasClearLists
    (isUnambiguous_of_find hfind)

/-- Such an edit tells of an unchanged message exactly if the six pairs agree. -/
theorem told_unchanged_iff {text : Text} {record : Members} {channel messageId : Text}
    {world : World} (hparse : Json.parse text = some (.object record))
    (htask : ofMembers record = .accepted task) (hfile : task.uploadFile = none)
    (hedits : task.Edits channel messageId)
    (hfind : (Message.find task.token channel messageId task.insecure world).result = .ok message)
    (dryRun : Bool) :
    (∃ report, (task.run dryRun world).result = .ok report ∧
      report.outcome.kind? = some ("unchanged" : Text)) ↔
        ∀ pair ∈ task.pairs message, Option.Rel Alike pair.1 pair.2 := by
  rw [← changes_found_iff hparse htask hfind]
  have hread : task.sought channel messageId world = .ok message := by
    rw [Message.find_apply] at hfind
    exact hfind
  constructor
  · rintro ⟨report, hreport, hkind⟩
    rw [← Bool.not_eq_true]
    exact fun h => kind?_of_changed hfile hedits hread h hreport hkind
  · intro h
    exact ⟨_, (run_of_unchanged hfile hedits hread h dryRun).1, rfl⟩

/-- A message does not differ from a task exactly if the six pairs agree: both sides are missing, or
are equal up to the order of members.  The order of members on either side does not matter, nor
what is not compared; and to change one side of a pair that agrees makes the two differ. -/
theorem changes_exactly (htask : task.IsParsed)
    (hmessage : (Json.object message).isUnambiguous = true) :
    (task.changes message = false ↔
      ∀ pair ∈ task.pairs message, Option.Rel Alike pair.1 pair.2) ∧
    (∀ answer : Members, Rearranged (.object message) (.object answer) →
      task.changes answer = task.changes message) ∧
    (∀ answer : Members, (Json.object answer).isUnambiguous = true →
      (∀ name ∈ comparedNames, answer.get? name = message.get? name) →
      task.changes answer = task.changes message) ∧
    (∀ other : Task, other.AsksLike task → other.changes message = task.changes message) ∧
    ∀ (other : Task) (answer : Members) (index : Nat) (found asked found' asked' : Option Json),
      other.IsParsed → (Json.object answer).isUnambiguous = true →
      (task.pairs message)[index]? = some (found, asked) → Option.Rel Alike found asked →
      (other.pairs answer)[index]? = some (found', asked') →
      (asked' = asked ∧ ¬ Option.Rel Alike found found') ∨
        (found' = found ∧ ¬ Option.Rel Alike asked asked') →
      other.changes answer = true := by
  have hclear := htask.hasClearLists
  refine ⟨changes_eq_false_iff_agree hclear hmessage,
    fun answer => changes_eq_of_rearranged hclear hmessage, ?_,
    fun other => changes_eq_of_asksLike hclear hmessage, ?_⟩
  · intro answer hanswer hnames
    apply changes_eq_of_get? hclear hmessage hanswer
    intro name hname
    rw [hnames name hname]
    exact .refl _
  · intro other answer index found asked found' asked' hother hanswer _ hagree hpair hside
    exact changes_of_one_side hother.hasClearLists hanswer hagree hpair hside

/-- A message of a color that shows the attachment of the edit, its members the other way round. -/
def turnedMessage (color : Text) : Members :=
  [("text", .string "bye"), ("color", .string color), ("link_names", .number (Double.ofNat 1)),
    ("attachments", .list [.object [("fallback", .string "done"), ("text", .string "done")]])]

theorem changes_exactly_of_attachingEdit :
    attachingEdit.IsParsed ∧ (Json.object (turnedMessage "normal")).isUnambiguous = true ∧
    (∀ pair ∈ attachingEdit.pairs (turnedMessage "normal"), Option.Rel Alike pair.1 pair.2) ∧
    attachingEdit.changes (turnedMessage "good") = true := by
  have htask : attachingEdit.IsParsed := ⟨attachingRecord, by decide +kernel, rfl⟩
  have hmessage : (Json.object (turnedMessage "normal")).isUnambiguous = true := by decide +kernel
  obtain ⟨hagree, -, -, -, hdiffers⟩ := changes_exactly htask hmessage
  have hpairs := hagree.1 (by decide +kernel)
  refine ⟨htask, hmessage, hpairs, ?_⟩
  have hcolor : Option.Rel Alike (some (.string "normal")) (some (.string "normal")) :=
    .some (.string "normal")
  have hother : ¬ Option.Rel Alike (some (.string "normal")) (some (.string "good")) := by
    rintro (⟨⟨⟩⟩ | _)
  exact hdiffers attachingEdit (turnedMessage "good") 3 _ _ _ _ htask (by decide +kernel) rfl
    hcolor rfl (Or.inl ⟨rfl, hother⟩)

end SlackCourier.Task
