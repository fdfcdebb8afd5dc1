import SlackCourier.Proofs.Message.Escaping

/-!
# The texts of a payload

The places at which a payload has texts, and the texts of the draft that stand there.  Each of them
goes out with one backslash more before every quote.
-/

namespace SlackCourier.Message

open Json

/-- Whether a quote stands in a text behind some units of its beginning. -/
def QuoteBehind (text : Text) (before : List UInt16) : Prop :=
  ∃ quote after, text.units = before ++ quote :: after ∧ isQuote quote = true

theorem isQuote_backslash : isQuote backslash = false := by decide

theorem escapeList_append (us vs : List UInt16) :
    escapeList (us ++ vs) = escapeList us ++ escapeList vs := by
  induction us with
  | nil => rfl
  | cons u rest ih =>
    rw [List.cons_append, escapeList, escapeList, ih]
    split_ifs <;> rfl

theorem escapeList_cons_of_quote {u : UInt16} (h : isQuote u = true) (rest : List UInt16) :
    escapeList (u :: rest) = backslash :: u :: escapeList rest := by
  rw [escapeList, if_pos h]

theorem exists_of_escapeList {us before after : List UInt16} {quote : UInt16}
    (hquote : isQuote quote = true) (h : escapeList us = before ++ quote :: after) :
    ∃ given rest, us = given ++ quote :: rest ∧ before = escapeList given ++ [backslash] := by
  induction us generalizing before with
  | nil => simp [escapeList] at h
  | cons u rest ih =>
    by_cases hu : isQuote u = true
    · rw [escapeList_cons_of_quote hu] at h
      rcases before with _ | ⟨first, _ | ⟨second, before⟩⟩
      · rw [← (List.cons.inj h).1, isQuote_backslash] at hquote
        cases hquote
      · obtain ⟨hfirst, hrest⟩ := List.cons.inj h
        exact ⟨[], rest, by rw [(List.cons.inj hrest).1]; rfl, by rw [← hfirst]; rfl⟩
      · obtain ⟨hfirst, hrest⟩ := List.cons.inj h
        obtain ⟨hsecond, hrest⟩ := List.cons.inj hrest
        obtain ⟨given, tail, htail, hbefore⟩ := ih hrest
        refine ⟨u :: given, tail, by rw [htail]; rfl, ?_⟩
        rw [escapeList_cons_of_quote hu, hbefore, hfirst, hsecond]
        rfl
    · rw [escapeList, if_neg hu] at h
      cases before with
      | nil =>
        rw [(List.cons.inj h).1] at hu
        exact absurd hquote hu
      | cons first before =>
        obtain ⟨hfirst, hrest⟩ := List.cons.inj h
        obtain ⟨given, tail, htail, hbefore⟩ := ih hrest
        refine ⟨u :: given, tail, by rw [htail]; rfl, ?_⟩
        rw [escapeList, if_neg hu, hbefore, hfirst, List.cons_append]

theorem quoteBehind_escapeQuotes {text : Text} {before : List UInt16} :
    QuoteBehind (escapeQuotes text) before ↔
      ∃ given, QuoteBehind text given ∧ before = escapeList given ++ [backslash] := by
  constructor
  · rintro ⟨quote, after, hunits, hquote⟩
    obtain ⟨given, rest, htext, hbefore⟩ := exists_of_escapeList hquote hunits
    exact ⟨given, ⟨quote, rest, htext, hquote⟩, hbefore⟩
  · rintro ⟨given, ⟨quote, after, hunits, hquote⟩, rfl⟩
    refine ⟨quote, escapeList after, ?_, hquote⟩
    show escapeList text.units = _
    rw [hunits, escapeList_append, escapeList_cons_of_quote hquote, List.append_assoc]
    rfl

theorem lookup_gainedFallback (attachment : Members) (name : Text) :
    (gainedFallback attachment).lookup name =
      if name = "fallback" ∧ attachment.get? "fallback" = none then
        (attachment.get? "text").map (underName attachmentKeys escapeQuotes "text")
      else none := by
  unfold gainedFallback
  cases attachment.get? "fallback" with
  | some fallback => simp
  | none => simp [Members.lookup_optional]

theorem underName_eq_string_iff {keys : List Text} {change : Text → Text} {name : Text}
    (h : name ∈ keys) {value : Json} {s : Text} :
    underName keys change name value = .string s ↔ ∃ t, value = .string t ∧ s = change t := by
  rw [underName, if_pos (List.contains_iff_mem.2 h), onString_eq_string_iff]

/-- The texts of an attachment as it is sent are its own, escaped, and the fallback that is gained
from its text. -/
theorem lookup_sentAttachment_eq_string_iff {attachment : Members} {key s : Text}
    (hkey : key ∈ attachmentKeys) :
    (sentAttachment attachment).lookup key = some (.string s) ↔
      ∃ t, s = escapeQuotes t ∧ (attachment.get? key = some (.string t) ∨
        key = "fallback" ∧ attachment.get? "fallback" = none ∧
          attachment.get? "text" = some (.string t)) := by
  rw [sentAttachment_eq, List.lookup_append, lookup_mapOwnTexts, lookup_gainedFallback]
  cases hown : attachment.lookup key with
  | some value =>
    have hgained : ¬ (key = "fallback" ∧ attachment.get? "fallback" = none) := by
      rintro ⟨rfl, hnone⟩
      rw [Members.get?, hown] at hnone
      cases hnone
    simp only [Option.map_some, Option.some_or, Option.some.injEq, underName_eq_string_iff hkey,
      Members.get?, hown, ← and_assoc, hgained, false_and, or_false, and_comm]
  | none =>
    have htext : Text.ofString "text" ∈ attachmentKeys := by decide
    rw [Option.map_none, Option.none_or]
    constructor
    · intro h
      split_ifs at h with hgained
      obtain ⟨value, hfound, hvalue⟩ := Option.map_eq_some_iff.1 h
      obtain ⟨t, rfl, hs⟩ := (underName_eq_string_iff htext).1 hvalue
      exact ⟨t, hs, Or.inr ⟨hgained.1, hgained.2, hfound⟩⟩
    · rintro ⟨t, hs, hkeyed | ⟨hname, hnone, hfound⟩⟩
      · rw [Members.get?, hown] at hkeyed
        cases hkeyed
      · rw [if_pos ⟨hname, hnone⟩, hfound, Option.map_some]
        exact congrArg some ((underName_eq_string_iff htext).2 ⟨t, rfl, hs⟩)

namespace Draft

/-- The places of a payload at which quotes are escaped. -/
inductive IsTextPlace : List Branch → Prop
  | text : IsTextPlace [.member "text"]
  | attachment (position : Nat) {key : Text} : key ∈ attachmentKeys →
      IsTextPlace [.member "attachments", .item position, .member key]
  | block (position : Nat) {path : List Branch} : endsUnder blockKeys path = true →
      IsTextPlace (.member "blocks" :: .item position :: path)

/-- The texts that a draft brings, each with the place at which its payload has it.  The attachments
given stand behind the colored text, if there is one. -/
inductive Carries (draft : Draft) : List Branch → Text → Prop
  | text {text : Text} : draft.text = some text → Carries draft draft.textPlace text
  | attachment {given : List Members} {attachment : Members} {position : Nat} {key text : Text} :
      draft.attachments = some given → given[position]? = some attachment →
      key ∈ attachmentKeys → attachment.get? key = some (.string text) →
      Carries draft [.member "attachments", .item (draft.coloredText?.toList.length + position),
        .member key] text
  | fallback {given : List Members} {attachment : Members} {position : Nat} {text : Text} :
      draft.attachments = some given → given[position]? = some attachment →
      attachment.get? "fallback" = none → attachment.get? "text" = some (.string text) →
      Carries draft [.member "attachments", .item (draft.coloredText?.toList.length + position),
        .member "fallback"] text
  | block {given : List Members} {block : Members} {position : Nat} {path : List Branch}
      {text : Text} : draft.blocks = some given → given[position]? = some block →
      endsUnder blockKeys path = true →
      (dropReserved (.object block)).at? path = some (.string text) →
      Carries draft (.member "blocks" :: .item position :: path) text

section

variable {draft : Draft} {path : List Branch} {sent text : Text}

theorem at?_attachments {given : List Members} (h : draft.attachments = some given)
    (position : Nat) (path : List Branch) :
    (Json.object draft.payload).at? (.member "attachments" ::
        .item (draft.coloredText?.toList.length + position) :: path) =
      given[position]?.bind fun attachment =>
        (Json.object (sentAttachment attachment)).at? path := by
  have hlist : draft.payload.lookup (Text.ofString "attachments") = _ :=
    lookup_attachments_payload h
  rw [at?_cons, child?_member, hlist, Option.bind_some, at?_cons, child?_item, List.map_append,
    List.getElem?_append_right (by simp)]
  simp [Option.bind_map, Function.comp_def]

theorem at?_attachments_of_none (h : draft.attachments = none) (position : Nat)
    (path : List Branch) :
    (Json.object draft.payload).at? (.member "attachments" ::
        .item (draft.coloredText?.toList.length + position) :: path) = none := by
  have hlist : draft.payload.lookup (Text.ofString "attachments") =
      if draft.coloredText?.isSome then some draft.attachmentList else none := by
    simpa [h] using draft.get?_payload "attachments"
  rw [at?_cons, child?_member, hlist]
  split_ifs
  · simp [attachmentList, h]
  · rfl

theorem at?_blocks {given : List Members} (h : draft.blocks = some given) (position : Nat)
    (path : List Branch) :
    (Json.object draft.payload).at? (.member "blocks" :: .item position :: path) =
      given[position]?.bind fun block => (Json.object (sentBlock block)).at? path := by
  have hlist : draft.payload.lookup (Text.ofString "blocks") = _ := lookup_blocks_payload h
  rw [at?_cons, child?_member, hlist, Option.bind_some, at?_cons, child?_item]
  simp [Option.bind_map, Function.comp_def]

theorem at?_sentBlock_eq_string_iff {block : Members} (h : endsUnder blockKeys path = true) :
    (Json.object (sentBlock block)).at? path = some (.string sent) ↔
      ∃ t, (dropReserved (.object block)).at? path = some (.string t) ∧ sent = escapeQuotes t := by
  have htree : Json.object (sentBlock block) =
      mapTexts blockKeys escapeQuotes (dropReserved (.object block)) :=
    escapeTree_eq blockKeys (.object block)
  rw [htree, at?_mapTexts_eq_string_iff blockKeys escapeQuotes h]

theorem Carries.at?_payload (h : draft.Carries path text) :
    (Json.object draft.payload).at? path = some (.string (escapeQuotes text)) := by
  cases h with
  | text htext => exact at?_textPlace htext
  | attachment hgiven hposition hkey hfound =>
    rw [at?_attachments hgiven, hposition, Option.bind_some, at?_cons, child?_member,
      (lookup_sentAttachment_eq_string_iff hkey).2 ⟨_, rfl, Or.inl hfound⟩]
    rfl
  | fallback hgiven hposition hnone hfound =>
    rw [at?_attachments hgiven, hposition, Option.bind_some, at?_cons, child?_member,
      (lookup_sentAttachment_eq_string_iff (by decide)).2 ⟨_, rfl, Or.inr ⟨rfl, hnone, hfound⟩⟩]
    rfl
  | block hgiven hposition hends hfound =>
    rw [at?_blocks hgiven, hposition, Option.bind_some, at?_sentBlock_eq_string_iff hends]
    exact ⟨_, hfound, rfl⟩

theorem lookup_textAttachment {color key : Text} (hkey : key ∈ attachmentKeys) :
    (textAttachment color text).lookup key =
      if key = "text" then some (.string (escapeQuotes text)) else none := by
  have hcolor : key ≠ "color" := fun h => absurd (h ▸ hkey) (by decide)
  have hmarkup : key ≠ "mrkdwn_in" := fun h => absurd (h ▸ hkey) (by decide)
  unfold textAttachment
  by_cases htext : key = "text"
  · simp [htext]
  · rw [if_neg htext, lookup_eq_none_iff_not_mem]
    simp [htext, hcolor, hmarkup]

theorem exists_carries_of_text
    (h : (Json.object draft.payload).at? [.member "text"] = some (.string sent)) :
    ∃ text, draft.Carries [.member "text"] text ∧ sent = escapeQuotes text := by
  have htext : draft.payload.get? "text" = some (.string sent) := by simpa using h
  simp only [get?_payload, if_true, Option.map_eq_some_iff] at htext
  obtain ⟨text, hplain, hsent⟩ := htext
  unfold plainText? at hplain
  split_ifs at hplain with hcolored
  have hplace : draft.textPlace = [.member "text"] := if_neg hcolored
  exact ⟨text, hplace ▸ Carries.text hplain, (Json.string.inj hsent).symm⟩

theorem exists_carries_of_first {first : Members} {key : Text} (hkey : key ∈ attachmentKeys)
    (hfirst : draft.coloredText? = some first) (h : first.lookup key = some (.string sent)) :
    ∃ text, draft.Carries [.member "attachments", .item 0, .member key] text ∧
      sent = escapeQuotes text := by
  obtain ⟨text, color, htext, hcolor, hbar, rfl⟩ := coloredText?_eq_some_iff.1 hfirst
  rw [lookup_textAttachment hkey] at h
  split_ifs at h with hname
  have hplace : draft.textPlace = [.member "attachments", .item 0, .member "text"] :=
    if_pos (isColored_iff.2 ⟨color, hcolor, hbar⟩)
  refine ⟨text, ?_, (Json.string.inj (Option.some.inj h)).symm⟩
  rw [hname, ← hplace]
  exact .text htext

theorem exists_carries_of_attachment {position : Nat} {key : Text} (hkey : key ∈ attachmentKeys)
    (h : (Json.object draft.payload).at? [.member "attachments", .item position, .member key] =
      some (.string sent)) :
    ∃ text, draft.Carries [.member "attachments", .item position, .member key] text ∧
      sent = escapeQuotes text := by
  rcases Nat.lt_or_ge position draft.coloredText?.toList.length with hfront | hbehind
  · cases hfirst : draft.coloredText? with
    | none =>
      rw [hfirst] at hfront
      cases hfront
    | some first =>
      have hlist : draft.payload.lookup (Text.ofString "attachments") =
          some (.list (.object first :: draft.images)) := by
        simpa [hfirst, attachmentList_of_some hfirst] using draft.get?_payload "attachments"
      have hzero : position = 0 := by
        rw [hfirst] at hfront
        exact Nat.lt_one_iff.1 hfront
      subst hzero
      rw [at?_cons, child?_member, hlist] at h
      exact exists_carries_of_first hkey hfirst (by simpa using h)
  · obtain ⟨index, rfl⟩ := Nat.exists_eq_add_of_le hbehind
    cases hgiven : draft.attachments with
    | none =>
      rw [at?_attachments_of_none hgiven] at h
      cases h
    | some given =>
      rw [at?_attachments hgiven] at h
      obtain ⟨attachment, hposition, hfound⟩ := Option.bind_eq_some_iff.1 h
      rw [at?_cons, child?_member] at hfound
      obtain ⟨text, hsent, hown | ⟨rfl, hnone, htext⟩⟩ :=
        (lookup_sentAttachment_eq_string_iff hkey).1 (by simpa using hfound)
      · exact ⟨text, .attachment hgiven hposition hkey hown, hsent⟩
      · exact ⟨text, .fallback hgiven hposition hnone htext, hsent⟩

theorem exists_carries (hplace : IsTextPlace path)
    (h : (Json.object draft.payload).at? path = some (.string sent)) :
    ∃ text, draft.Carries path text ∧ sent = escapeQuotes text := by
  cases hplace with
  | text => exact exists_carries_of_text h
  | attachment position hkey => exact exists_carries_of_attachment hkey h
  | block position hends =>
    cases hgiven : draft.blocks with
    | none =>
      have hnone : draft.payload.lookup (Text.ofString "blocks") = none := by
        simpa [hgiven] using draft.get?_payload "blocks"
      rw [at?_cons, child?_member, hnone] at h
      cases h
    | some given =>
      rw [at?_blocks hgiven] at h
      obtain ⟨block, hposition, hfound⟩ := Option.bind_eq_some_iff.1 h
      obtain ⟨text, htext, hsent⟩ := (at?_sentBlock_eq_string_iff hends).1 hfound
      exact ⟨text, .block hgiven hposition hends htext, hsent⟩

end

theorem getLast?_of_quoteBehind {draft : Draft} {path : List Branch} {sent : Text}
    {before : List UInt16} (hplace : IsTextPlace path)
    (hsent : (Json.object draft.payload).at? path = some (.string sent))
    (hquote : QuoteBehind sent before) : before.getLast? = some backslash := by
  obtain ⟨text, -, rfl⟩ := exists_carries hplace hsent
  obtain ⟨given, -, rfl⟩ := quoteBehind_escapeQuotes.1 hquote
  exact List.getLast?_concat

end Draft

end SlackCourier.Message
