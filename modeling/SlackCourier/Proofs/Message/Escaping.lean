import SlackCourier.Proofs.Message.Shape
import SlackCourier.Proofs.Message.Texts
import Mathlib.Data.List.Forall2

/-!
# What goes out for a draft

An attachment goes out with the escapes in its own texts and perhaps a fallback behind them, a block
with the escapes in its texts at any depth.  Nothing else in them is changed, and each stands in the
payload at its place.
-/

namespace SlackCourier.Message

open Json

/-- The fallback that is put behind the members of an attachment: its text as it goes out, if it has
a text and no fallback. -/
def gainedFallback (attachment : Members) : Members :=
  if (attachment.get? "fallback").isSome then []
  else Members.optional "fallback"
    ((attachment.get? "text").map (underName attachmentKeys escapeQuotes "text"))

theorem sentAttachment_eq (attachment : Members) :
    sentAttachment attachment =
      mapOwnTexts attachmentKeys escapeQuotes attachment ++ gainedFallback attachment := by
  unfold sentAttachment gainedFallback
  simp only [escapeAttachmentTexts_eq, Members.get?, lookup_mapOwnTexts]
  cases attachment.lookup (Text.ofString "fallback") with
  | some fallback => simp
  | none => cases attachment.lookup (Text.ofString "text") <;> simp

/-- Whether `sent` is what an attachment becomes: the members as they were given, each in its place
and with the escapes taken back the one it was, and behind them the fallback that is gained. -/
structure AttachmentSent (given sent : Members) : Prop where
  readsBack : ∃ front, sent = front ++ gainedFallback given ∧
    mapOwnTexts attachmentKeys unescapeQuotes front = given
  found : ∀ name value, given.lookup name = some value →
    sent.lookup name = some (underName attachmentKeys escapeQuotes name value)

/-- Whether `sent` is what a block becomes: with the escapes taken back it is the block, and at
every place the leaf is the one that was there, escaped if it is a text. -/
structure BlockSent (given sent : Members) : Prop where
  readsBack : mapMemberTexts blockKeys unescapeQuotes sent = given
  found : ∀ path leaf, leaf.isLeaf = true → (Json.object given).at? path = some leaf →
    (Json.object sent).at? path = some (underPath blockKeys escapeQuotes path leaf)

theorem mapOwnTexts_unescape (keys : List Text) (members : Members) :
    mapOwnTexts keys unescapeQuotes (mapOwnTexts keys escapeQuotes members) = members := by
  rw [mapOwnTexts_mapOwnTexts, unescapeQuotes_comp_escapeQuotes, mapOwnTexts_id]

theorem mapMemberTexts_unescape (keys : List Text) (members : Members) :
    mapMemberTexts keys unescapeQuotes (mapMemberTexts keys escapeQuotes members) = members := by
  rw [mapMemberTexts_mapMemberTexts, unescapeQuotes_comp_escapeQuotes, mapMemberTexts_id]

theorem attachmentSent (attachment : Members) :
    AttachmentSent attachment (sentAttachment attachment) := by
  refine ⟨⟨_, sentAttachment_eq attachment, mapOwnTexts_unescape _ _⟩, fun name value hfound => ?_⟩
  rw [sentAttachment_eq, List.lookup_append, lookup_mapOwnTexts, hfound]
  rfl

theorem blockSent {block : Members} (h : isPlainMembers block = true) :
    BlockSent block (sentBlock block) := by
  rw [sentBlock_of_isPlain h]
  refine ⟨mapMemberTexts_unescape blockKeys block, fun path leaf hleaf hfound => ?_⟩
  have htree : (mapTexts blockKeys escapeQuotes (.object block)).at? path =
      some (underPath blockKeys escapeQuotes path leaf) :=
    at?_mapTexts_of_isLeaf blockKeys escapeQuotes hleaf hfound
  exact htree

namespace Draft

/-- Where in a payload the text of a draft stands. -/
def textPlace (draft : Draft) : List Branch :=
  if draft.isColored then [.member "attachments", .item 0, .member "text"] else [.member "text"]

theorem at?_textPlace {draft : Draft} {text : Text} (h : draft.text = some text) :
    (Json.object draft.payload).at? draft.textPlace = some (.string (escapeQuotes text)) := by
  unfold textPlace
  split_ifs with hcolored
  · have hfirst : draft.coloredText? =
        some (textAttachment (draft.color.getD plainColor) text) := by
      rw [coloredText?, if_pos hcolored, h, Option.map_some]
    have hlist : draft.payload.lookup (Text.ofString "attachments") =
        some draft.attachmentList := by
      simpa [hfirst] using draft.get?_payload "attachments"
    rw [at?_cons, child?_member, hlist, attachmentList_of_some hfirst]
    rfl
  · have hplain : draft.plainText? = some text := by
      rw [plainText?, if_neg hcolored, h]
    have htext : draft.payload.lookup (Text.ofString "text") =
        some (.string (escapeQuotes text)) := by
      simpa [hplain] using draft.get?_payload "text"
    rw [at?_cons, child?_member, htext]
    rfl

theorem lookup_attachments_payload {draft : Draft} {given : List Members}
    (h : draft.attachments = some given) :
    draft.payload.get? "attachments" =
      some (.list ((draft.coloredText?.toList ++ given.map sentAttachment).map .object)) := by
  simpa [attachmentList, h] using draft.get?_payload "attachments"

theorem lookup_blocks_payload {draft : Draft} {given : List Members}
    (h : draft.blocks = some given) :
    draft.payload.get? "blocks" = some (.list ((given.map sentBlock).map .object)) := by
  simpa [h, Function.comp_def] using draft.get?_payload "blocks"

end Draft

end SlackCourier.Message
