import SlackCourier.Proofs.Json.Same
import SlackCourier.Proofs.Task.Acceptance
import SlackCourier.Proofs.Task.Conversation
import SlackCourier.Proofs.Task.DryRun

/-!
# Whether edits converge

An edit is held against the message as it stands.  A message that shows just what was sent for the
edit has no color of its own, and so always differs from the task.  With the color beside what was
sent it differs only where sending changed what the task asks for: the emoji that hides the
picture, the text that travels as an attachment, the texts that were escaped and the fallbacks that
were added.  An edit that would change nothing ends with the reading of the message.
-/

namespace SlackCourier

open Session

namespace Check

theorem listOf_object_eq_ok {given : Option Json} {list : List Members}
    (h : listOf object given = .ok list) :
    ∃ items, given = some (.list items) ∧ ∀ a ∈ list, ∃ raw, Json.object raw ∈ items ∧
      a = Json.dropReservedMembers raw := by
  cases given with
  | none => cases h
  | some value =>
    cases value with
    | list items =>
      refine ⟨items, rfl, fun a ha => ?_⟩
      have hgathered : items.map (fun item => object (some item)) = list.map .ok := gather_eq_ok h
      have hmem : (Except.ok a : Except (List Text) Members) ∈
          items.map fun item => object (some item) := hgathered ▸ List.mem_map_of_mem ha
      obtain ⟨item, hitem, hobject⟩ := List.mem_map.1 hmem
      cases item with
      | object raw => exact ⟨raw, hitem, (Except.ok.inj hobject).symm⟩
      | _ => cases hobject
    | _ => cases h

end Check

namespace Message

open Json

theorem sameShape_escapeAttachmentTexts (attachment : Members) :
    SameShapeMembers (escapeAttachmentTexts attachment) attachment := by
  induction attachment with
  | nil => trivial
  | cons m rest ih =>
    obtain ⟨k, v⟩ := m
    refine ⟨rfl, ?_, ih⟩
    split_ifs
    · exact sameShape_escapeString (sameShape_refl v)
    · exact sameShape_refl v

theorem same_sentAttachment_iff {attachment : Members}
    (h : isUnambiguousMembers attachment = true) :
    same (.object (sentAttachment attachment)) (.object attachment) = true ↔
      sentAttachment attachment = attachment := by
  refine same_object_iff (fun hlength => ?_) h
  have hshape := sameShape_escapeAttachmentTexts attachment
  unfold sentAttachment at hlength ⊢
  dsimp only at hlength ⊢
  split at hlength
  · have hescaped := length_eq_of_sameShape hshape
    simp [hescaped] at hlength
  · exact hshape

theorem same_sentBlock_iff {block : Members} (hplain : isPlainMembers block = true)
    (h : isUnambiguousMembers block = true) :
    same (.object (sentBlock block)) (.object block) = true ↔ sentBlock block = block :=
  same_object_iff (fun _ => sameShapeMembers_escapeMembers blockKeys hplain) h

end Message

namespace Task

/-- The objects in an accepted list of objects have no reserved members and no name twice. -/
theorem clean_of_accepted {record : Members} (hrecord : Json.isUnambiguousMembers record = true)
    {name : Text} {list : List Members}
    (h : Check.optional (Check.listOf Check.object) (record.get? name) = .ok (some list)) :
    ∀ a ∈ list, Json.isPlainMembers a = true ∧ Json.isUnambiguousMembers a = true := by
  intro a ha
  obtain ⟨-, habsent⟩ | ⟨value, part, -, hchecked, hpart⟩ := Check.optional_eq_ok_iff.1 h
  · cases habsent
  · rw [← Option.some.inj hpart] at hchecked
    obtain ⟨items, hitems, hraw⟩ := Check.listOf_object_eq_ok hchecked
    obtain ⟨raw, hmem, rfl⟩ := hraw a ha
    have hlist := Json.isUnambiguous_of_lookup hrecord hitems
    have hobject := Json.isUnambiguousItems_iff.1 hlist (.object raw) hmem
    exact ⟨Json.isPlainMembers_dropReservedMembers raw,
      Json.isUnambiguousMembers_dropReservedMembers hobject⟩

/-- Whether a message shows what is sent for a task, and of what is compared nothing else, the color
apart. -/
structure Shows (task : Task) (message : Members) : Prop where
  sent : ∀ {name : Text} {value : Json}, task.payload.get? name = some value →
    message.get? name = some value
  unsent : ∀ {name : Text}, name ∈ task.compared.map (·.1) → name ≠ "color" →
    task.payload.get? name = none → message.get? name = none

/-- Whether what a task asks for goes out as it is given: one icon at most, no text in a color, and
attachments and blocks in which nothing is escaped or added. -/
structure SendsAsGiven (task : Task) : Prop where
  icon : task.iconUrl = none ∨ task.iconEmoji = none
  text : task.draft.coloredText? = none
  attachments : ∀ list, task.attachments = some list → ∀ a ∈ list, Message.sentAttachment a = a
  blocks : ∀ list, task.blocks = some list → ∀ b ∈ list, Message.sentBlock b = b

theorem changes_eq_false_iff {task : Task} {message : Members} :
    task.changes message = false ↔
      ∀ entry ∈ task.compared, Json.sameOption (message.get? entry.1) entry.2 = true := by
  simp [changes, List.any_eq_false]

theorem Shows.get?_eq {task : Task} {message : Members} (h : task.Shows message) {name : Text}
    (hname : name ∈ task.compared.map (·.1)) (hcolor : name ≠ "color") :
    message.get? name = task.payload.get? name := by
  cases hsent : task.payload.get? name with
  | none => exact h.unsent hname hcolor hsent
  | some value => exact h.sent hsent

/-- Attachments are shown as the task asks for them when no text is put before them and each goes
out as it is. -/
theorem sameOption_attachments_iff (task : Task)
    (hclean : ∀ list, task.attachments = some list → ∀ a ∈ list,
      Json.isUnambiguousMembers a = true) :
    Json.sameOption (task.payload.get? "attachments") (task.attachments.map trees) = true ↔
      task.draft.coloredText? = none ∧
        ∀ list, task.attachments = some list → ∀ a ∈ list, Message.sentAttachment a = a := by
  have hdraft : task.draft.attachments = task.attachments := rfl
  simp only [payload, Message.Draft.get?_payload, Text.ofString_inj, String.reduceEq, if_false,
    if_true, hdraft]
  cases hattachments : task.attachments with
  | none => cases task.draft.coloredText? <;> simp [Json.sameOption]
  | some list =>
    have hsame : Json.sameItems ((list.map Message.sentAttachment).map .object)
        (list.map .object) = true ↔ ∀ a ∈ list, Message.sentAttachment a = a :=
      Json.sameItems_map_iff fun a ha =>
        Message.same_sentAttachment_iff (hclean list hattachments a ha)
    cases hcolored : task.draft.coloredText? with
    | none =>
      simpa [Json.sameOption, Message.Draft.attachmentList, hcolored, hdraft, hattachments, trees,
        Json.same] using hsame
    | some colored =>
      have hlonger : ∀ rest : List Json, rest.length = list.length →
          ¬ Json.sameItems (.object colored :: rest) (list.map .object) = true := by
        intro rest hrest hsame
        have hlength := Json.length_eq_of_sameItems hsame
        simp [hrest] at hlength
      simpa [Json.sameOption, Message.Draft.attachmentList, hcolored, hdraft, hattachments, trees,
        Json.same] using hlonger _ (by simp)

theorem sameOption_blocks_iff (task : Task)
    (hclean : ∀ list, task.blocks = some list → ∀ b ∈ list,
      Json.isPlainMembers b = true ∧ Json.isUnambiguousMembers b = true) :
    Json.sameOption (task.payload.get? "blocks") (task.blocks.map trees) = true ↔
      ∀ list, task.blocks = some list → ∀ b ∈ list, Message.sentBlock b = b := by
  have hdraft : task.draft.blocks = task.blocks := rfl
  simp only [payload, Message.Draft.get?_payload, Text.ofString_inj, String.reduceEq, if_false,
    if_true, hdraft]
  cases hblocks : task.blocks with
  | none => simp [Json.sameOption]
  | some list =>
    have hsame : Json.sameItems ((list.map Message.sentBlock).map .object)
        (list.map .object) = true ↔ ∀ b ∈ list, Message.sentBlock b = b :=
      Json.sameItems_map_iff fun b hb =>
        have ⟨hplain, hnames⟩ := hclean list hblocks b hb
        Message.same_sentBlock_iff hplain hnames
    simpa [Json.sameOption, trees, Json.same, Function.comp_def] using hsame

theorem sameOption_icons_iff (task : Task) :
    (Json.sameOption (task.payload.get? "icon_url") (task.iconUrl.map .string) = true ∧
      Json.sameOption (task.payload.get? "icon_emoji") (task.iconEmoji.map .string) = true) ↔
      task.iconUrl = none ∨ task.iconEmoji = none := by
  have hurl : task.draft.iconUrl = task.iconUrl := rfl
  have hemoji : task.draft.iconEmoji = task.iconEmoji := rfl
  simp only [payload, Message.Draft.get?_payload, Text.ofString_inj, String.reduceEq, if_false,
    if_true, hurl, hemoji]
  cases task.iconUrl <;> cases task.iconEmoji <;> simp [Json.sameOption, Json.same]

/-- With its color beside what was sent, a message differs from the task only where sending did. -/
theorem changes_eq_false_iff_of_shows {record : Members} {task : Task} {message : Members}
    (hrecord : Json.isUnambiguousMembers record = true) (htask : ofMembers record = .accepted task)
    (hshows : task.Shows message) (hcolor : message.get? "color" = some (.string task.color)) :
    task.changes message = false ↔ task.SendsAsGiven := by
  have hreads := ofMembers_eq_accepted_iff.1 htask
  have hattachments := sameOption_attachments_iff task fun list hlist a ha =>
    (clean_of_accepted hrecord (hlist ▸ hreads.attachments) a ha).2
  have hblocks := sameOption_blocks_iff task fun list hlist b hb =>
    clean_of_accepted hrecord (hlist ▸ hreads.blocks) b hb
  have hicons := sameOption_icons_iff task
  have hlinks : task.payload.get? "link_names" = some (.number task.linkNames) := by
    simp [payload, Message.Draft.get?_payload, draft]
  have hshown : ∀ name : Text, name ∈ task.compared.map (·.1) → name ≠ "color" →
      message.get? name = task.payload.get? name := fun name => hshows.get?_eq
  simp only [compared, List.map_cons, List.map_nil, List.mem_cons, List.not_mem_nil] at hshown
  rw [changes_eq_false_iff]
  simp only [compared, List.forall_mem_cons, List.not_mem_nil, false_implies, implies_true,
    and_true, hcolor, hlinks, hshown "icon_url" (by simp) (by simp),
    hshown "icon_emoji" (by simp) (by simp), hshown "link_names" (by simp) (by simp),
    hshown "attachments" (by simp) (by simp), hshown "blocks" (by simp) (by simp),
    hattachments, hblocks]
  constructor
  · rintro ⟨hurl, hemoji, -, -, ⟨htext, hattached⟩, hlaid⟩
    exact ⟨hicons.1 ⟨hurl, hemoji⟩, htext, hattached, hlaid⟩
  · intro h
    obtain ⟨hurl, hemoji⟩ := hicons.2 h.icon
    exact ⟨hurl, hemoji, by simp [Json.sameOption, Json.same], by simp [Json.sameOption, Json.same],
      ⟨h.text, h.attachments⟩, h.blocks⟩

theorem changes_of_no_color {task : Task} {message : Members}
    (hcolor : message.get? "color" = none) : task.changes message = true := by
  cases hsame : task.changes message with
  | true => rfl
  | false =>
    have hentry := changes_eq_false_iff.1 hsame ("color", some (.string task.color))
      (by simp [compared])
    rw [hcolor] at hentry
    cases hentry

section

variable {task : Task} {channel messageId : Text} {message : Members} {world : World}

theorem run_of_unchanged (hfile : task.uploadFile = none) (hedits : task.Edits channel messageId)
    (hread : task.sought channel messageId world = .ok message)
    (h : task.changes message = false) (dryRun : Bool) :
    (task.run dryRun world).result = .ok ⟨.unchanged (textOf message "ts")
      ((textOf message "channel").getD channel), task.warnings⟩ ∧
    (task.run dryRun world).calls =
      [Message.lookupRequest task.token channel messageId task.insecure] := by
  have hverdict := verdict_of_unchanged h channel dryRun
  rw [calls_run, run_apply, outcome_of_message hfile,
    runMessage_of_decided (plan_of_edits hedits) hread hverdict]
  exact ⟨rfl, rfl⟩

theorem kind?_of_changed (hfile : task.uploadFile = none) (hedits : task.Edits channel messageId)
    (hread : task.sought channel messageId world = .ok message)
    (h : task.changes message = true) {dryRun : Bool} {report : Report}
    (hreport : (task.run dryRun world).result = .ok report) :
    report.outcome.kind? ≠ some ("unchanged" : Text) := by
  have hplan := plan_of_edits hedits
  have houtcome := outcome_of_run hreport
  rw [outcome_of_message hfile] at houtcome
  rcases houtcome with houtcome | ⟨failure, -, hfailed⟩
  · cases dryRun with
    | true =>
      rw [runMessage_of_decided hplan hread (verdict_of_changed h channel)] at houtcome
      rw [← Except.ok.inj houtcome]
      simp [Outcome.kind?]
    | false =>
      rw [runMessage_of_undecided hplan hread (verdict_eq_none_iff.2 ⟨h, rfl⟩)] at houtcome
      rcases kind?_of_sendMessage houtcome with hkind | hkind | hkind <;> simp [hkind]
  · simp [hfailed, Outcome.kind?]

end

/-- A message that shows what was sent for an edit and no color is changed again by the edit.  With
the color of the task it is left alone exactly when the task goes out as it is given.  A run that
reads the message and would change nothing tells so and posts nothing. -/
theorem edit_convergence {record : Members} {task : Task} {message : Members}
    (hrecord : (Json.object record).isUnambiguous = true)
    (htask : ofMembers record = .accepted task) (hshows : task.Shows message) :
    (message.get? "color" = none → task.changes message = true) ∧
    (message.get? "color" = some (.string task.color) →
      (task.changes message = false ↔ task.SendsAsGiven)) ∧
    ∀ (channel messageId : Text) (answer : Members) (world : World) (dryRun : Bool),
      task.uploadFile = none → task.Edits channel messageId → world.Grants 0 answer →
      answer.get? "ok" ≠ some (.bool false) →
      answer.get? "messages" = some (.list [.object message]) →
      (task.changes message = false →
        (task.run dryRun world).result = .ok ⟨.unchanged (textOf message "ts")
          ((textOf message "channel").getD channel), task.warnings⟩ ∧
        (task.run dryRun world).calls =
          [Message.lookupRequest task.token channel messageId task.insecure]) ∧
      (task.changes message = true → ∀ report, (task.run dryRun world).result = .ok report →
        report.outcome.kind? ≠ some ("unchanged" : Text)) := by
  refine ⟨changes_of_no_color, changes_eq_false_iff_of_shows hrecord htask hshows, ?_⟩
  intro channel messageId answer world dryRun hfile hedits hgrants hok hmessages
  have hread : task.sought channel messageId world = .ok message :=
    sought_eq_ok_iff.2 ⟨answer, hgrants, hok, hmessages⟩
  exact ⟨fun h => run_of_unchanged hfile hedits hread h dryRun,
    fun h report hreport => kind?_of_changed hfile hedits hread h hreport⟩

/-- An edit with an attachment that has no quote in it and brings its own fallback. -/
def attachingRecord : Members :=
  [("token", .string "xoxb-1"), ("msg", .string "hi"), ("channel", .string "C1"),
    ("messageId", .string "1.5"), ("prependHash", .string "never"),
    ("attachments", .list [.object [("text", .string "done"), ("fallback", .string "done")]])]

def attachingEdit : Task :=
  { plainEdit with attachments := some [[("text", .string "done"), ("fallback", .string "done")]] }

/-- What is sent for the edit, with the color beside it. -/
def attachedMessage : Members := attachingEdit.payload ++ Members.single "color" (.string "normal")

def showingAttached : World := answering [("messages", .list [.object attachedMessage])]

theorem edit_convergence_of_attachingEdit :
    (Json.object attachingRecord).isUnambiguous = true ∧
    ofMembers attachingRecord = .accepted attachingEdit ∧ attachingEdit.Shows attachedMessage ∧
    attachingEdit.changes attachedMessage = false ∧
    (attachingEdit.run false showingAttached).result = .ok ⟨.unchanged (some "1.5") "C1", []⟩ ∧
    (attachingEdit.run false showingAttached).calls =
      [Message.lookupRequest "xoxb-1" "C1" "1.5" false] := by
  have hrecord : (Json.object attachingRecord).isUnambiguous = true := by decide +kernel
  have htask : ofMembers attachingRecord = .accepted attachingEdit := rfl
  have hshows : attachingEdit.Shows attachedMessage := by
    refine ⟨fun h => ?_, fun hname hcolor hnone => ?_⟩
    · exact (List.lookup_append ..).trans (Option.or_eq_some_iff.2 (Or.inl h))
    · rw [Members.get?] at hnone
      refine (List.lookup_append ..).trans ?_
      rw [hnone, Option.none_or]
      exact (Members.lookup_optional _ "color" (some (.string "normal"))).trans (if_neg hcolor)
  obtain ⟨-, hchanges, hrun⟩ := edit_convergence hrecord htask hshows
  have hgiven : attachingEdit.SendsAsGiven := by
    refine ⟨Or.inl rfl, rfl, fun list hlist => ?_, fun list hlist => nomatch hlist⟩
    rw [← Option.some.inj hlist]
    decide +kernel
  have hunchanged := (hchanges (by decide +kernel)).2 hgiven
  let answer : Members := [("messages", .list [.object attachedMessage])]
  have hgrants : showingAttached.Grants 0 answer :=
    ⟨_, ⟨[], rfl⟩, rfl,
      Response.object_eq_ok_iff.2 ⟨_, answer, rfl, by decide +kernel, by decide +kernel⟩⟩
  obtain ⟨hresult, hcalls⟩ := (hrun "C1" "1.5" _ showingAttached false rfl
    ⟨rfl, by decide, rfl, by decide⟩ hgrants (by decide) rfl).1 hunchanged
  exact ⟨hrecord, htask, hshows, hunchanged, hresult, hcalls⟩

/-- A message that shows what was sent and nothing else differs from the edit. -/
theorem changed_after_edit :
    ¬ ∀ (record : Members) (task : Task) (message : Members),
      (Json.object record).isUnambiguous = true → ofMembers record = .accepted task →
      task.messageId.isSome → task.Shows message → message.get? "color" = none →
      task.changes message = false := by
  intro hclaim
  have hshows : attachingEdit.Shows attachingEdit.payload := ⟨id, fun _ _ => id⟩
  have hsame := hclaim attachingRecord attachingEdit attachingEdit.payload (by decide +kernel) rfl
    rfl hshows (by decide +kernel)
  have hdiffers : attachingEdit.changes attachingEdit.payload = true := by decide +kernel
  rw [hsame] at hdiffers
  cases hdiffers

end Task

end SlackCourier
