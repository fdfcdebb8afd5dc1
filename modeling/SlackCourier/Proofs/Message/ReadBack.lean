import SlackCourier.Proofs.Message.TextPlaces

/-!
# Escaping is undone

The texts of a draft go out with one backslash more before each quote, and nothing else in its text,
its attachments and its blocks is changed but for the fallbacks that attachments gain.  So the draft
is read back from its payload, and drafts that differ in their texts alone have different payloads.
-/

namespace SlackCourier.Message

open Json

/-- Whether two lists of members differ in their own texts alone. -/
def SameButOwnTexts (keys : List Text) (a b : Members) : Prop :=
  mapOwnTexts keys (fun _ => "") a = mapOwnTexts keys (fun _ => "") b

/-- Whether two lists of members differ in the texts in them alone, at any depth. -/
def SameButTexts (keys : List Text) (a b : Members) : Prop :=
  mapMemberTexts keys (fun _ => "") a = mapMemberTexts keys (fun _ => "") b

theorem SameButOwnTexts.isSome_lookup {keys : List Text} {a b : Members}
    (h : SameButOwnTexts keys a b) (name : Text) :
    (a.lookup name).isSome = (b.lookup name).isSome := by
  have hfound := congrArg (fun members : Members => (members.lookup name).isSome) h
  simpa only [lookup_mapOwnTexts, Option.isSome_map] using hfound

theorem length_gainedFallback (attachment : Members) :
    (gainedFallback attachment).length =
      if (attachment.get? "fallback").isSome then 0
      else if (attachment.get? "text").isSome then 1 else 0 := by
  unfold gainedFallback
  cases attachment.get? "fallback" with
  | some fallback => rfl
  | none => cases attachment.get? "text" <;> rfl

/-- Attachments that differ in their texts alone gain a fallback together, so what goes out for them
is as long for one as for the other and can be taken apart. -/
theorem eq_of_sentAttachment {a b : Members} (hsame : SameButOwnTexts attachmentKeys a b)
    (h : sentAttachment a = sentAttachment b) : a = b := by
  rw [sentAttachment_eq, sentAttachment_eq] at h
  have hgained : (gainedFallback a).length = (gainedFallback b).length := by
    rw [length_gainedFallback, length_gainedFallback, Members.get?, Members.get?,
      hsame.isSome_lookup, hsame.isSome_lookup]
  have hfront := (List.append_inj' h hgained).1
  rw [← mapOwnTexts_unescape attachmentKeys a, hfront, mapOwnTexts_unescape]

theorem isPlainMembers_of_sameButTexts {keys : List Text} {a b : Members}
    (h : SameButTexts keys a b) (ha : isPlainMembers a = true) : isPlainMembers b = true := by
  have hplain := isPlain_mapTexts keys (fun _ => "") (.object a)
  have hother := isPlain_mapTexts keys (fun _ => "") (.object b)
  rw [mapTexts, h] at hplain
  rw [mapTexts, hplain] at hother
  exact hother.symm.trans ha

theorem eq_of_sentBlock {a b : Members} (hsame : SameButTexts blockKeys a b)
    (ha : isPlainMembers a = true) (h : sentBlock a = sentBlock b) : a = b := by
  rw [sentBlock_of_isPlain ha, sentBlock_of_isPlain (isPlainMembers_of_sameButTexts hsame ha)] at h
  rw [← mapMemberTexts_unescape blockKeys a, h, mapMemberTexts_unescape]

/-- Lists of members that differ pairwise in texts alone are equal if pairwise what is sent is. -/
theorem eq_of_map_eq {send : Members → Members} {Same : Members → Members → Prop}
    {as bs : List Members} (hsame : List.Forall₂ Same as bs)
    (hsend : ∀ a ∈ as, ∀ b, Same a b → send a = send b → a = b)
    (h : as.map send = bs.map send) : as = bs := by
  induction hsame with
  | nil => rfl
  | cons hfirst _ ih =>
    obtain ⟨hhead, htail⟩ := List.cons.inj h
    rw [hsend _ List.mem_cons_self _ hfirst hhead,
      ih (fun a ha => hsend a (List.mem_cons_of_mem _ ha)) htail]

theorem eq_of_optionRel {α : Type} {Same : α → α → Prop} {x y : Option α}
    (hsame : Option.Rel Same x y) (h : ∀ a b, x = some a → y = some b → Same a b → a = b) :
    x = y := by
  cases hsame with
  | none => rfl
  | some hrel => rw [h _ _ rfl rfl hrel]

namespace Draft

/-- Whether two drafts differ in their texts alone: the text itself, the own texts of attachments
and the texts in blocks. -/
structure SameButTexts (a b : Draft) : Prop where
  text : a.text.isSome = b.text.isSome
  attachments : Option.Rel (List.Forall₂ (SameButOwnTexts attachmentKeys))
    a.attachments b.attachments
  blocks : Option.Rel (List.Forall₂ (Message.SameButTexts blockKeys)) a.blocks b.blocks
  rest : { a with text := none, attachments := none, blocks := none } =
    { b with text := none, attachments := none, blocks := none }

/-- Whether no block of a draft has a reserved name in it. -/
def HasPlainBlocks (draft : Draft) : Prop :=
  ∀ given, draft.blocks = some given → ∀ block ∈ given, isPlainMembers block = true

section

variable {a b : Draft} (hsame : a.SameButTexts b) (hpayload : a.payload = b.payload)

include hsame

theorem SameButTexts.color_eq : a.color = b.color := (Draft.mk.inj hsame.rest).2.2.2.2.2.2.2.2.1

theorem SameButTexts.isColored_eq : a.isColored = b.isColored := by
  rw [isColored, isColored, hsame.color_eq]

theorem SameButTexts.length_coloredText :
    a.coloredText?.toList.length = b.coloredText?.toList.length := by
  have htext := hsame.text
  simp only [coloredText?, hsame.isColored_eq]
  split_ifs
  · cases ha : a.text <;> cases hb : b.text <;> simp_all
  · rfl

include hpayload

theorem SameButTexts.text_eq : a.text = b.text := by
  have hplace : a.textPlace = b.textPlace := by rw [textPlace, textPlace, hsame.isColored_eq]
  have hsome := hsame.text
  cases ha : a.text with
  | none =>
    rw [ha] at hsome
    exact (Option.isNone_iff_eq_none.1 (by simpa using hsome.symm)).symm
  | some text =>
    rw [ha] at hsome
    obtain ⟨other, hb⟩ := Option.isSome_iff_exists.1 hsome.symm
    have hfound := at?_textPlace ha
    rw [hpayload, hplace, at?_textPlace hb, Option.some.injEq, Json.string.injEq] at hfound
    rw [hb, ← unescapeQuotes_escapeQuotes text, ← hfound, unescapeQuotes_escapeQuotes]

theorem SameButTexts.attachments_eq : a.attachments = b.attachments := by
  refine eq_of_optionRel hsame.attachments fun as bs ha hb hrel => ?_
  have hfound := lookup_attachments_payload ha
  rw [hpayload, lookup_attachments_payload hb, Option.some.injEq, Json.list.injEq] at hfound
  have hlists := List.map_injective_iff.2 (fun _ _ => Json.object.inj) hfound
  have hsent := (List.append_inj hlists hsame.length_coloredText.symm).2
  exact eq_of_map_eq hrel (fun _ _ _ => eq_of_sentAttachment) hsent.symm

theorem SameButTexts.blocks_eq (hplain : a.HasPlainBlocks) : a.blocks = b.blocks := by
  refine eq_of_optionRel hsame.blocks fun as bs ha hb hrel => ?_
  have hfound := lookup_blocks_payload ha
  rw [hpayload, lookup_blocks_payload hb, Option.some.injEq, Json.list.injEq] at hfound
  have hsent := List.map_injective_iff.2 (fun _ _ => Json.object.inj) hfound
  exact eq_of_map_eq hrel (fun block hblock _ hother => eq_of_sentBlock hother
    (hplain as ha block hblock)) hsent.symm

theorem SameButTexts.eq_of_payload (hplain : a.HasPlainBlocks) : a = b := by
  have hrest := Draft.mk.inj hsame.rest
  have htext := hsame.text_eq hpayload
  have hattachments := hsame.attachments_eq hpayload
  have hblocks := hsame.blocks_eq hpayload hplain
  cases a
  cases b
  simp_all

end

/-- Whether the text, the attachments and the blocks of a draft stand in its payload, each in its
place, so that they are had again by taking the escapes back. -/
structure ReadsBack (draft : Draft) : Prop where
  text : ∀ text, draft.text = some text →
    (Json.object draft.payload).at? draft.textPlace = some (.string (escapeQuotes text)) ∧
      unescapeQuotes (escapeQuotes text) = text
  attachments : ∀ given, draft.attachments = some given → ∃ sent : List Members,
    draft.payload.get? "attachments" =
        some (.list ((draft.coloredText?.toList ++ sent).map .object)) ∧
      List.Forall₂ AttachmentSent given sent
  blocks : ∀ given, draft.blocks = some given → ∃ sent : List Members,
    draft.payload.get? "blocks" = some (.list (sent.map .object)) ∧
      List.Forall₂ BlockSent given sent

theorem readsBack {draft : Draft} (hplain : draft.HasPlainBlocks) : draft.ReadsBack := by
  refine ⟨fun text htext => ?_, fun given hgiven => ?_, fun given hgiven => ?_⟩
  · exact ⟨at?_textPlace htext, unescapeQuotes_escapeQuotes text⟩
  · refine ⟨given.map sentAttachment, lookup_attachments_payload hgiven, ?_⟩
    rw [List.forall₂_map_right_iff]
    exact List.forall₂_same.2 fun attachment _ => attachmentSent attachment
  · refine ⟨given.map sentBlock, lookup_blocks_payload hgiven, ?_⟩
    rw [List.forall₂_map_right_iff]
    exact List.forall₂_same.2 fun block hblock => blockSent (hplain given hgiven block hblock)

def textDraft (text : Text) : Draft where
  text := some text
  channel := none
  threadId := none
  username := none
  iconUrl := none
  iconEmoji := none
  linkNames := none
  parse := none
  color := none
  attachments := none
  blocks := none
  messageId := none
  policy := .never

/-- A colored text beside an attachment that gains a fallback, and a block with quotes at and beside
its texts. -/
def reportDraft (note : Text) : Draft :=
  { textDraft "it's \"done\"" with
    color := some "good"
    attachments := some [[("text", .string "a \\\"b\\\""), ("footer", .string "don't")]]
    blocks := some [[("type", .string "section"),
      ("fields", .list [.string "isn't", .object [("alt_text", .string note)]])]] }

end Draft

end SlackCourier.Message
