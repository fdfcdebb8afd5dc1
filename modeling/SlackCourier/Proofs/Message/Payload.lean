import SlackCourier.Message.Payload
import SlackCourier.Proofs.Json.Members
import SlackCourier.Proofs.Text.Pieces

/-!
# What a payload says

The places of a payload, in order, with what stands in each, and what is found under a name.  The
attachments are written at two places, and stand in the first of them that is used.
-/

namespace SlackCourier.Message

/-- Whether a channel begins in one of the ways that need no number sign. -/
def IsReady (channel : Text) : Prop :=
  ∃ start ∈ (["#", "@", "C0", "GF", "G0", "CP"] : List Text), channel.startsWith start = true

theorem hash_append_ne (channel : Text) : ("#" : Text) ++ channel ≠ channel := by
  intro h
  have hlength := congrArg Text.length h
  rw [Text.length_append] at hlength
  have hone : (Text.ofString "#").length = 1 := rfl
  omega

/-- A channel stays as it is exactly when the policy puts nothing in front, and it is then that a
number sign stands before it. -/
theorem addressed_eq_self_iff {policy : HashPolicy} {channel : Text} :
    addressed policy channel = channel ↔ policy = .never ∨ (policy = .auto ∧ IsReady channel) := by
  cases policy with
  | always => simp [addressed, hash_append_ne]
  | never => simp [addressed]
  | auto =>
    have hready : (readyStarts.any fun start => channel.startsWith start) = true ↔
        IsReady channel := List.any_eq_true
    simp only [addressed, reduceCtorEq, true_and, false_or, ← hready]
    split_ifs with h
    · simp [h]
    · simp [h, hash_append_ne]

theorem addressed_eq_or (policy : HashPolicy) (channel : Text) :
    addressed policy channel = channel ∨ addressed policy channel = "#" ++ channel := by
  cases policy with
  | always => exact Or.inr rfl
  | never => exact Or.inl rfl
  | auto =>
    simp only [addressed]
    split_ifs
    · exact Or.inl rfl
    · exact Or.inr rfl

namespace Draft

/-- The names of the places of a payload, in their order. -/
def placeNames : List Text :=
  ["text", "attachments", "channel", "thread_ts", "username", "icon_emoji", "icon_url",
    "link_names", "parse", "ts", "attachments", "blocks"]

/-- The places of a payload, each with what stands in it if anything does.  The attachments have two
places, `early` with the text and `late` behind the timestamp. -/
def placesWith (early late : Option Json) (draft : Draft) : List (Text × Option Json) :=
  [("text", draft.plainText?.map fun text => .string (escapeQuotes text)),
    ("attachments", early),
    ("channel", draft.channel.map fun channel => .string (addressed draft.policy channel)),
    ("thread_ts", draft.threadId.map .string),
    ("username", draft.username.map .string),
    ("icon_emoji", draft.iconEmoji.map .string),
    ("icon_url", if draft.iconEmoji.isSome then none else draft.iconUrl.map .string),
    ("link_names", draft.linkNames.map .number),
    ("parse", draft.parse.map fun mode => .string mode.name),
    ("ts", draft.messageId.map .string),
    ("attachments", late),
    ("blocks", draft.blocks.map fun blocks => .list (blocks.map fun b => .object (sentBlock b)))]

/-- The places of a payload: the attachments stand early where the text is one of them. -/
def places (draft : Draft) : List (Text × Option Json) :=
  draft.placesWith (draft.coloredText?.map fun _ => draft.attachmentList)
    (if draft.coloredText?.isSome then none
      else draft.attachments.map fun _ => draft.attachmentList)

theorem icon_eq (draft : Draft) :
    draft.icon = Members.optional "icon_emoji" (draft.iconEmoji.map .string) ++
      Members.optional "icon_url"
        (if draft.iconEmoji.isSome then none else draft.iconUrl.map .string) := by
  unfold icon
  cases draft.iconEmoji <;> simp

theorem writes_eq_lineUp (draft : Draft) :
    draft.writes = Members.lineUp (draft.placesWith
      (draft.coloredText?.map fun first => .list [.object first])
      (draft.attachments.map fun _ => draft.attachmentList)) := by
  simp [writes, icon_eq, Members.lineUp, placesWith]

theorem index?_of_mem_lineUp {early late : Option Json} {draft : Draft} {m : Text × Json}
    (h : m ∈ Members.lineUp (draft.placesWith early late)) : Members.index? m.1 = none := by
  have hnames : ∀ name ∈ placeNames, Members.index? name = none := by decide
  exact hnames m.1 ((Members.names_lineUp _).subset (List.mem_map_of_mem h))

theorem nodup_names_lineUp (early late : Option Json) (draft : Draft)
    (h : early = none ∨ late = none) :
    ((Members.lineUp (draft.placesWith early late)).map (·.1)).Nodup := by
  rcases h with rfl | rfl
  · have hnames : (placeNames.eraseIdx 1).Nodup := by decide
    exact hnames.sublist (Members.names_lineUp ((draft.placesWith none late).eraseIdx 1))
  · have hnames : (placeNames.eraseIdx 10).Nodup := by decide
    exact hnames.sublist (Members.names_lineUp ((draft.placesWith early none).eraseIdx 10))

/-- Without a text of their own before them, attachments that stand early begin the payload. -/
theorem exists_lineUp_eq {draft : Draft} (hplain : draft.plainText? = none) :
    ∃ between after : Members, ∀ (early : Json) (late : Option Json),
      Members.lineUp (draft.placesWith (some early) late) =
        Members.single "attachments" early ++ between ++
          (Members.optional "attachments" late ++ after) := by
  let others := draft.placesWith none none
  refine ⟨Members.lineUp ((others.drop 2).take 8), Members.lineUp (others.drop 11), ?_⟩
  intro early late
  simp [others, Members.lineUp, placesWith, hplain]

theorem payload_eq_lineUp (draft : Draft) : draft.payload = Members.lineUp draft.places := by
  unfold payload places
  rw [writes_eq_lineUp]
  cases hcolored : draft.coloredText? with
  | none =>
    apply Members.ofPairs_eq_self
    · exact nodup_names_lineUp none _ draft (Or.inl rfl)
    · exact fun m => index?_of_mem_lineUp
  | some first =>
    have hplain : draft.plainText? = none := by
      unfold coloredText? at hcolored
      unfold plainText?
      split_ifs at hcolored ⊢ with h
      rfl
    cases hattachments : draft.attachments with
    | none =>
      have hlist : Json.list [.object first] = draft.attachmentList := by
        simp [attachmentList, hcolored, hattachments]
      rw [Option.map_some, hlist]
      apply Members.ofPairs_eq_self
      · exact nodup_names_lineUp _ none draft (Or.inr rfl)
      · exact fun m => index?_of_mem_lineUp
    | some given =>
      obtain ⟨between, after, hsplit⟩ := exists_lineUp_eq hplain
      have hstay : ∀ early : Json, Members.lineUp (draft.placesWith (some early) none) =
          Members.single "attachments" early ++ between ++ after := fun early => hsplit early none
      have hnames := nodup_names_lineUp (some (.list [.object first])) none draft (Or.inr rfl)
      rw [hstay] at hnames
      have hindex : ∀ m ∈ Members.single "attachments" (.list [.object first]) ++ between ++ after,
          Members.index? m.1 = none := by
        rw [← hstay]
        exact fun m => index?_of_mem_lineUp
      simp only [Option.map_some, Option.isSome_some, if_true]
      rw [hsplit, hstay]
      exact Members.ofPairs_rewrite _ _ hnames hindex

theorem get?_payload (draft : Draft) (name : Text) :
    draft.payload.get? name =
      if name = "text" then draft.plainText?.map fun text => .string (escapeQuotes text)
      else if name = "attachments" then
        if draft.coloredText?.isSome ∨ draft.attachments.isSome then some draft.attachmentList
        else none
      else if name = "channel" then
        draft.channel.map fun channel => .string (addressed draft.policy channel)
      else if name = "thread_ts" then draft.threadId.map .string
      else if name = "username" then draft.username.map .string
      else if name = "icon_emoji" then draft.iconEmoji.map .string
      else if name = "icon_url" then
        if draft.iconEmoji.isSome then none else draft.iconUrl.map .string
      else if name = "link_names" then draft.linkNames.map .number
      else if name = "parse" then draft.parse.map fun mode => .string mode.name
      else if name = "ts" then draft.messageId.map .string
      else if name = "blocks" then
        draft.blocks.map fun blocks => .list (blocks.map fun block => .object (sentBlock block))
      else none := by
  rw [payload_eq_lineUp]
  simp only [Members.get?, Members.lineUp, places, placesWith, List.flatMap_cons,
    List.flatMap_nil, List.append_nil, List.lookup_append, Members.lookup_optional]
  by_cases htext : name = "text"
  · simp [htext]
  by_cases hattachments : name = "attachments"
  · simp only [hattachments, Text.ofString_inj]
    cases draft.coloredText? <;> cases draft.attachments <;> simp
  simp only [htext, hattachments, if_false, Option.none_or]
  by_cases hchannel : name = "channel"
  · simp [hchannel]
  by_cases hthread : name = "thread_ts"
  · simp [hthread]
  by_cases husername : name = "username"
  · simp [husername]
  by_cases hemoji : name = "icon_emoji"
  · simp [hemoji]
  by_cases hurl : name = "icon_url"
  · simp [hurl]
  by_cases hlink : name = "link_names"
  · simp [hlink]
  by_cases hparse : name = "parse"
  · simp [hparse]
  by_cases hts : name = "ts"
  · simp [hts]
  simp [hchannel, hthread, husername, hemoji, hurl, hlink, hparse, hts]

theorem get?_payload_ts (draft : Draft) :
    draft.payload.get? "ts" = draft.messageId.map .string := by
  simp [get?_payload]

end Draft

end SlackCourier.Message
