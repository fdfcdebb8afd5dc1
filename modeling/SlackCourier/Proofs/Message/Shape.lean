import SlackCourier.Proofs.Message.Payload

/-!
# The shape of a payload

Which members a payload has, in what order, and what each of them says.  Members come from the parts
of a draft one by one, with two exceptions: a colored text stands among the attachments and takes
their place to the front, and an emoji keeps the picture out.
-/

namespace SlackCourier.Message

/-- A text with a backslash put before each of its quotes. -/
def slashed (text : Text) : Text :=
  ⟨text.units.flatMap fun u =>
    if u = Text.unit '\'' ∨ u = Text.unit '"' then [Text.unit '\\', u] else [u]⟩

theorem escapeList_eq_flatMap (us : List UInt16) : escapeList us =
    us.flatMap fun u =>
      if u = Text.unit '\'' ∨ u = Text.unit '"' then [Text.unit '\\', u] else [u] := by
  induction us with
  | nil => rfl
  | cons u rest ih =>
    rw [escapeList, List.flatMap_cons, ← ih]
    simp only [isQuote, backslash, Bool.or_eq_true, beq_iff_eq]
    split_ifs <;> rfl

theorem escapeQuotes_eq_slashed (text : Text) : escapeQuotes text = slashed text :=
  congrArg Text.mk (escapeList_eq_flatMap text.units)

namespace Draft

/-- The attachment that shows a text with a color bar. -/
def barred (color text : Text) : Members :=
  [("text", .string (slashed text)), ("color", .string color),
    ("mrkdwn_in", .list [.string "text"])]

theorem textAttachment_eq (color text : Text) : textAttachment color text = barred color text := by
  unfold textAttachment barred
  rw [escapeQuotes_eq_slashed]

/-- Whether a draft has a text that is shown with a color bar. -/
def HasBar (draft : Draft) : Prop :=
  draft.text ≠ none ∧ ∃ color, draft.color = some color ∧ color ≠ "normal"

/-- The attachments given, each as it is sent. -/
def images (draft : Draft) : List Json :=
  (draft.attachments.getD []).map fun attachment => .object (sentAttachment attachment)

/-- The members that the parts of a draft give, each with its value. -/
inductive Gives (draft : Draft) : Text → Json → Prop
  | text {text : Text} : draft.text = some text → ¬ draft.HasBar →
      Gives draft "text" (.string (slashed text))
  | bar {text color : Text} : draft.text = some text → draft.color = some color →
      color ≠ "normal" →
      Gives draft "attachments" (.list (.object (barred color text) :: draft.images))
  | channel {channel : Text} : draft.channel = some channel →
      Gives draft "channel" (.string (addressed draft.policy channel))
  | thread {thread : Text} : draft.threadId = some thread →
      Gives draft "thread_ts" (.string thread)
  | username {username : Text} : draft.username = some username →
      Gives draft "username" (.string username)
  | emoji {emoji : Text} : draft.iconEmoji = some emoji →
      Gives draft "icon_emoji" (.string emoji)
  | picture {url : Text} : draft.iconEmoji = none → draft.iconUrl = some url →
      Gives draft "icon_url" (.string url)
  | linkNames {flag : Double} : draft.linkNames = some flag →
      Gives draft "link_names" (.number flag)
  | parse {mode : ParseMode} : draft.parse = some mode →
      Gives draft "parse" (.string mode.name)
  | timestamp {messageId : Text} : draft.messageId = some messageId →
      Gives draft "ts" (.string messageId)
  | attachments {given : List Members} : draft.attachments = some given → ¬ draft.HasBar →
      Gives draft "attachments" (.list draft.images)
  | blocks {blocks : List Members} : draft.blocks = some blocks →
      Gives draft "blocks" (.list (blocks.map fun block => .object (sentBlock block)))

/-- The order of the members of a payload whose text has a color bar. -/
def barOrder : List Text :=
  ["attachments", "channel", "thread_ts", "username", "icon_emoji", "icon_url", "link_names",
    "parse", "ts", "blocks"]

/-- The order of the members of any other payload. -/
def plainOrder : List Text :=
  ["text", "channel", "thread_ts", "username", "icon_emoji", "icon_url", "link_names", "parse",
    "ts", "attachments", "blocks"]

theorem isColored_iff {draft : Draft} :
    draft.isColored = true ↔ ∃ color, draft.color = some color ∧ color ≠ "normal" := by
  unfold isColored plainColor
  cases draft.color <;> simp

theorem hasBar_iff {draft : Draft} :
    draft.HasBar ↔ draft.text ≠ none ∧ draft.isColored = true := by
  rw [HasBar, isColored_iff]

theorem plainText?_eq_some_iff {draft : Draft} {text : Text} :
    draft.plainText? = some text ↔ draft.text = some text ∧ ¬ draft.HasBar := by
  rw [hasBar_iff, plainText?]
  cases draft.isColored with
  | true => cases draft.text <;> simp
  | false => simp

theorem coloredText?_eq_none_iff {draft : Draft} :
    draft.coloredText? = none ↔ ¬ draft.HasBar := by
  rw [hasBar_iff, coloredText?]
  cases draft.isColored <;> simp

theorem coloredText?_eq_some_iff {draft : Draft} {first : Members} :
    draft.coloredText? = some first ↔ ∃ text color, draft.text = some text ∧
      draft.color = some color ∧ color ≠ "normal" ∧ first = textAttachment color text := by
  rw [coloredText?]
  split_ifs with hcolored
  · obtain ⟨color, hcolor, hbar⟩ := isColored_iff.1 hcolored
    simp only [hcolor, Option.getD_some, Option.map_eq_some_iff, Option.some.injEq]
    constructor
    · rintro ⟨text, htext, rfl⟩
      exact ⟨text, color, htext, rfl, hbar, rfl⟩
    · rintro ⟨text, _, htext, rfl, -, rfl⟩
      exact ⟨text, htext, rfl⟩
  · simp only [false_iff]
    rintro ⟨text, color, -, hcolor, hbar, -⟩
    exact hcolored (isColored_iff.2 ⟨color, hcolor, hbar⟩)

theorem attachmentList_of_some {draft : Draft} {first : Members}
    (h : draft.coloredText? = some first) :
    draft.attachmentList = .list (.object first :: draft.images) := by
  simp [attachmentList, images, h]

theorem attachmentList_of_none {draft : Draft} (h : draft.coloredText? = none) :
    draft.attachmentList = .list draft.images := by
  simp [attachmentList, images, h]

theorem gives_of_mem_places {draft : Draft} {name : Text} {value : Json}
    (h : (name, some value) ∈ draft.places) : draft.Gives name value := by
  simp only [places, placesWith, List.mem_cons, Prod.mk.injEq, List.not_mem_nil, or_false,
    @eq_comm _ (some value)] at h
  rcases h with ⟨rfl, h⟩ | ⟨rfl, h⟩ | ⟨rfl, h⟩ | ⟨rfl, h⟩ | ⟨rfl, h⟩ | ⟨rfl, h⟩ | ⟨rfl, h⟩ |
    ⟨rfl, h⟩ | ⟨rfl, h⟩ | ⟨rfl, h⟩ | ⟨rfl, h⟩ | ⟨rfl, h⟩
  · obtain ⟨text, htext, rfl⟩ := Option.map_eq_some_iff.1 h
    obtain ⟨htext, hbar⟩ := plainText?_eq_some_iff.1 htext
    rw [escapeQuotes_eq_slashed]
    exact .text htext hbar
  · obtain ⟨first, hfirst, rfl⟩ := Option.map_eq_some_iff.1 h
    obtain ⟨text, color, htext, hcolor, hbar, rfl⟩ := coloredText?_eq_some_iff.1 hfirst
    rw [attachmentList_of_some hfirst, textAttachment_eq]
    exact .bar htext hcolor hbar
  · obtain ⟨channel, hchannel, rfl⟩ := Option.map_eq_some_iff.1 h
    exact .channel hchannel
  · obtain ⟨thread, hthread, rfl⟩ := Option.map_eq_some_iff.1 h
    exact .thread hthread
  · obtain ⟨username, husername, rfl⟩ := Option.map_eq_some_iff.1 h
    exact .username husername
  · obtain ⟨emoji, hemoji, rfl⟩ := Option.map_eq_some_iff.1 h
    exact .emoji hemoji
  · split_ifs at h with hemoji
    obtain ⟨url, hurl, rfl⟩ := Option.map_eq_some_iff.1 h
    exact .picture (Option.not_isSome_iff_eq_none.1 hemoji) hurl
  · obtain ⟨flag, hflag, rfl⟩ := Option.map_eq_some_iff.1 h
    exact .linkNames hflag
  · obtain ⟨mode, hmode, rfl⟩ := Option.map_eq_some_iff.1 h
    exact .parse hmode
  · obtain ⟨messageId, hid, rfl⟩ := Option.map_eq_some_iff.1 h
    exact .timestamp hid
  · split_ifs at h with hcolored
    have hnone := Option.not_isSome_iff_eq_none.1 hcolored
    obtain ⟨given, hgiven, rfl⟩ := Option.map_eq_some_iff.1 h
    rw [attachmentList_of_none hnone]
    exact .attachments hgiven (coloredText?_eq_none_iff.1 hnone)
  · obtain ⟨blocks, hblocks, rfl⟩ := Option.map_eq_some_iff.1 h
    exact .blocks hblocks

theorem mem_places_of_gives {draft : Draft} {name : Text} {value : Json}
    (h : draft.Gives name value) : (name, some value) ∈ draft.places := by
  unfold places placesWith
  cases h with
  | text htext hbar =>
    have hplain := plainText?_eq_some_iff.2 ⟨htext, hbar⟩
    simp [hplain, escapeQuotes_eq_slashed]
  | bar htext hcolor hbar =>
    have hfirst := coloredText?_eq_some_iff.2 ⟨_, _, htext, hcolor, hbar, rfl⟩
    simp [hfirst, attachmentList_of_some hfirst, textAttachment_eq]
  | channel h => simp [h]
  | thread h => simp [h]
  | username h => simp [h]
  | emoji h => simp [h]
  | picture hemoji hurl => simp [hemoji, hurl]
  | linkNames h => simp [h]
  | parse h => simp [h]
  | timestamp h => simp [h]
  | attachments hgiven hbar =>
    have hnone := coloredText?_eq_none_iff.2 hbar
    simp [hnone, hgiven, attachmentList_of_none hnone]
  | blocks h => simp [h]

theorem mem_payload_iff {draft : Draft} {name : Text} {value : Json} :
    (name, value) ∈ draft.payload ↔ draft.Gives name value := by
  rw [payload_eq_lineUp, Members.mem_lineUp_iff]
  exact ⟨gives_of_mem_places, mem_places_of_gives⟩

theorem nodup_names_payload (draft : Draft) : (draft.payload.map (·.1)).Nodup := by
  rw [payload_eq_lineUp]
  apply nodup_names_lineUp
  cases draft.coloredText? <;> simp

theorem plainText?_eq_none_of_bar {draft : Draft} (h : draft.HasBar) : draft.plainText? = none := by
  apply Option.eq_none_iff_forall_ne_some.2
  exact fun text htext => (plainText?_eq_some_iff.1 htext).2 h

theorem exists_coloredText_of_bar {draft : Draft} {text : Text} (htext : draft.text = some text)
    (h : draft.HasBar) : ∃ color, draft.coloredText? = some (textAttachment color text) := by
  obtain ⟨-, color, hcolor, hbar⟩ := h
  exact ⟨color, coloredText?_eq_some_iff.2 ⟨text, color, htext, hcolor, hbar, rfl⟩⟩

theorem names_payload_of_bar {draft : Draft} (h : draft.HasBar) :
    (draft.payload.map (·.1)).Sublist barOrder := by
  obtain ⟨text, htext⟩ := Option.ne_none_iff_exists'.1 h.1
  obtain ⟨color, hfirst⟩ := exists_coloredText_of_bar htext h
  have hplain := plainText?_eq_none_of_bar h
  have hplaces : draft.payload = Members.lineUp ((draft.places.eraseIdx 10).tail) := by
    rw [payload_eq_lineUp]
    simp [Members.lineUp, places, placesWith, hfirst, hplain]
  rw [hplaces]
  exact Members.names_lineUp _

theorem names_payload_of_no_bar {draft : Draft} (h : ¬ draft.HasBar) :
    (draft.payload.map (·.1)).Sublist plainOrder := by
  have hnone := coloredText?_eq_none_iff.2 h
  have hplaces : draft.payload = Members.lineUp (draft.places.eraseIdx 1) := by
    rw [payload_eq_lineUp]
    simp [Members.lineUp, places, placesWith, hnone]
  rw [hplaces]
  exact Members.names_lineUp _

/-- Whether a text stands in a payload once: as its text, with no attachments but those given, or as
that of the first attachment, ahead of those. -/
def StandsOnce (draft : Draft) (text : Text) : Prop :=
  (draft.payload.get? "text" = some (.string (slashed text)) ∧
    draft.payload.get? "attachments" = draft.attachments.map fun _ => .list draft.images) ∨
  (draft.payload.get? "text" = none ∧ ∃ first : Members,
    draft.payload.get? "attachments" = some (.list (.object first :: draft.images)) ∧
      first.get? "text" = some (.string (slashed text)))

theorem standsOnce_of_text {draft : Draft} {text : Text} (h : draft.text = some text) :
    draft.StandsOnce text := by
  unfold StandsOnce
  by_cases hbar : draft.HasBar
  · obtain ⟨color, hfirst⟩ := exists_coloredText_of_bar h hbar
    refine Or.inr ⟨?_, barred color text, ?_, rfl⟩
    · simp [get?_payload, plainText?_eq_none_of_bar hbar]
    · simp [get?_payload, hfirst, attachmentList_of_some hfirst, textAttachment_eq]
  · have hnone := coloredText?_eq_none_iff.2 hbar
    refine Or.inl ⟨?_, ?_⟩
    · simp [get?_payload, plainText?_eq_some_iff.2 ⟨h, hbar⟩, escapeQuotes_eq_slashed]
    · rw [get?_payload, attachmentList_of_none hnone]
      cases draft.attachments <;> simp [hnone]

theorem icon_or_icon (draft : Draft) :
    draft.payload.get? "icon_emoji" = none ∨ draft.payload.get? "icon_url" = none := by
  cases hemoji : draft.iconEmoji with
  | none => exact Or.inl (by simp [get?_payload, hemoji])
  | some emoji => exact Or.inr (by simp [get?_payload, hemoji])

/-- The members of a payload are exactly those that the parts of its draft give, in one order if the
text has a color bar and in another if not, with no name twice and at most one icon.  A text stands
in it once. -/
theorem payload_shape (draft : Draft) :
    (∀ name value, (name, value) ∈ draft.payload ↔ draft.Gives name value) ∧
    (draft.HasBar → (draft.payload.map (·.1)).Sublist barOrder) ∧
    (¬ draft.HasBar → (draft.payload.map (·.1)).Sublist plainOrder) ∧
    (draft.payload.map (·.1)).Nodup ∧
    (draft.payload.get? "icon_emoji" = none ∨ draft.payload.get? "icon_url" = none) ∧
    ∀ text, draft.text = some text → draft.StandsOnce text := by
  refine ⟨?_, names_payload_of_bar, names_payload_of_no_bar, nodup_names_payload draft,
    icon_or_icon draft, ?_⟩
  · exact fun name value => mem_payload_iff
  · exact fun text htext => standsOnce_of_text htext

end Draft

end SlackCourier.Message
