import SlackCourier.Proofs.Message.Texts
import Mathlib.Data.List.Basic

/-!
# An escaped tree, place by place

Escaping leaves the shape of a tree alone: at every place there stands a value of the same kind,
with as many items or the same names.  A leaf becomes another one only if it is a text directly
under one of the listed names.  So it does not matter in which order the names are listed or how
often, and two lists without a common name can be taken one after the other or together.
-/

namespace SlackCourier.Message

open Json

/-- What is seen of a value without looking at what stands in it. -/
inductive Outline where
  | null
  | bool
  | number
  | string
  | list (length : Nat)
  | object (names : List Text)
  deriving DecidableEq, Repr

def outline : Json → Outline
  | .null => .null
  | .bool _ => .bool
  | .number _ => .number
  | .string _ => .string
  | .list items => .list items.length
  | .object members => .object (members.map (·.1))

section

variable (keys others : List Text) (change : Text → Text)

@[simp] theorem outline_onString (value : Json) :
    outline (onString change value) = outline value := by
  cases value <;> rfl

@[simp] theorem outline_underPath (path : List Branch) (value : Json) :
    outline (underPath keys change path value) = outline value := by
  unfold underPath
  split_ifs
  · exact outline_onString change value
  · rfl

@[simp] theorem outline_mapTexts (value : Json) :
    outline (mapTexts keys change value) = outline value := by
  cases value with
  | list items => simp [mapTexts, mapItemTexts_eq_map, outline]
  | object members => simp [mapTexts, mapMemberTexts_eq_map, outline, Function.comp_def]
  | null | bool | number | string => rfl

theorem outline_at?_mapTexts (value : Json) (path : List Branch) :
    ((mapTexts keys change value).at? path).map outline = (value.at? path).map outline := by
  rw [at?_mapTexts, Option.map_map]
  refine Option.map_congr fun found _ => ?_
  rw [Function.comp_apply, outline_underPath, outline_mapTexts]

variable {keys others}

theorem contains_congr (h : ∀ name, name ∈ keys ↔ name ∈ others) (name : Text) :
    keys.contains name = others.contains name := by
  rw [Bool.eq_iff_iff, List.contains_iff_mem, List.contains_iff_mem]
  exact h name

theorem mapTexts_congr_keys (h : ∀ name, name ∈ keys ↔ name ∈ others) (value : Json) :
    mapTexts keys change value = mapTexts others change value := by
  induction value using tree_induct with
  | leaf value hleaf => rw [mapTexts_of_isLeaf _ _ hleaf, mapTexts_of_isLeaf _ _ hleaf]
  | list items ih =>
    simp only [mapTexts, mapItemTexts_eq_map, Json.list.injEq]
    exact List.map_congr_left ih
  | object members ih =>
    simp only [mapTexts, mapMemberTexts_eq_map, Json.object.injEq]
    refine List.map_congr_left fun m hm => ?_
    rw [ih m hm, underName, underName, contains_congr h]

/-- A name is in at most one of two lists without a common name, so a value is changed once. -/
theorem underName_of_disjoint (h : keys.Disjoint others) (name : Text) (value : Json) :
    underName others change name (underName keys change name value) =
      underName (keys ++ others) change name value := by
  simp only [underName, List.contains_iff_mem, List.mem_append]
  by_cases hkeys : name ∈ keys
  · have hothers : name ∉ others := h hkeys
    simp [hkeys, hothers]
  · simp [hkeys]

theorem mapTexts_of_disjoint (h : keys.Disjoint others) (value : Json) :
    mapTexts others change (mapTexts keys change value) =
      mapTexts (keys ++ others) change value := by
  induction value using tree_induct with
  | leaf value hleaf => simp only [mapTexts_of_isLeaf _ _ hleaf]
  | list items ih =>
    simp only [mapTexts, mapItemTexts_eq_map, List.map_map, Json.list.injEq]
    exact List.map_congr_left ih
  | object members ih =>
    simp only [mapTexts, mapMemberTexts_eq_map, List.map_map, Json.object.injEq]
    refine List.map_congr_left fun m hm => ?_
    rw [Function.comp_apply, mapTexts_underName, ih m hm, underName_of_disjoint change h]

end

section

variable {keys others : List Text}

theorem endsUnder_iff {path : List Branch} :
    endsUnder keys path = true ↔ ∃ front name, path = front ++ [.member name] ∧ name ∈ keys := by
  unfold endsUnder
  rcases List.eq_nil_or_concat path with rfl | ⟨front, last, rfl⟩
  · simp
  · cases last with
    | member name => simp
    | item position => simp

/-- Whether `sent` is `given` with its texts escaped: the shape is the same at every place, a text
directly under one of the names is escaped, and no other leaf is changed. -/
structure EscapedUnder (keys : List Text) (given sent : Json) : Prop where
  shape : ∀ path, (sent.at? path).map outline = (given.at? path).map outline
  escaped : ∀ front name text, name ∈ keys →
    given.at? (front ++ [.member name]) = some (.string text) →
    sent.at? (front ++ [.member name]) = some (.string (escapeQuotes text))
  changed : ∀ path leaf, leaf.isLeaf = true → given.at? path = some leaf →
    sent.at? path ≠ some leaf →
    ∃ front name text, path = front ++ [.member name] ∧ name ∈ keys ∧ leaf = .string text

theorem escapeTree_of_isPlain {value : Json} (h : isPlain value = true) :
    escapeTree keys value = mapTexts keys escapeQuotes value := by
  rw [escapeTree_eq, dropReserved_eq_self h]

theorem escapedUnder_escapeTree {value : Json} (h : isPlain value = true) (keys : List Text) :
    EscapedUnder keys value (escapeTree keys value) := by
  rw [escapeTree_of_isPlain h]
  refine ⟨outline_at?_mapTexts keys escapeQuotes value, ?_, ?_⟩
  · intro front name text hname hfound
    have hends : endsUnder keys (front ++ [.member name]) = true :=
      endsUnder_iff.2 ⟨front, name, rfl, hname⟩
    exact (at?_mapTexts_eq_string_iff keys escapeQuotes hends).2 ⟨text, hfound, rfl⟩
  · intro path leaf hleaf hfound hother
    rw [at?_mapTexts_of_isLeaf keys escapeQuotes hleaf hfound, Ne, Option.some.injEq] at hother
    have hends : endsUnder keys path = true := by
      by_contra hends
      exact hother (if_neg hends)
    obtain ⟨front, name, hpath, hname⟩ := endsUnder_iff.1 hends
    rw [underPath, if_pos hends] at hother
    cases leaf with
    | string text => exact ⟨front, name, text, hpath, hname, rfl⟩
    | list | object => cases hleaf
    | null | bool | number => exact absurd rfl hother

theorem escapeTree_congr_keys (h : ∀ name, name ∈ keys ↔ name ∈ others) (value : Json) :
    escapeTree keys value = escapeTree others value := by
  rw [escapeTree_eq, escapeTree_eq, mapTexts_congr_keys escapeQuotes h]

theorem escapeTree_of_disjoint (h : keys.Disjoint others) (value : Json) :
    escapeTree others (escapeTree keys value) = escapeTree (keys ++ others) value := by
  have hplain : isPlain (mapTexts keys escapeQuotes (dropReserved value)) = true := by
    rw [isPlain_mapTexts, isPlain_dropReserved]
  rw [escapeTree_eq keys, escapeTree_of_isPlain hplain, mapTexts_of_disjoint escapeQuotes h,
    escapeTree_eq]

/-- An escaped tree has the shape of the tree at every place, and another leaf only where there was
a text directly under one of the names.  The order and the repetition of the names do not matter,
and lists without a common name can be taken together or one after the other, in either order. -/
theorem escapeTree_by_place {value : Json} (hplain : isPlain value = true) (keys : List Text) :
    EscapedUnder keys value (escapeTree keys value) ∧
    (∀ others : List Text, (∀ name, name ∈ keys ↔ name ∈ others) →
      escapeTree keys value = escapeTree others value) ∧
    ∀ others : List Text, keys.Disjoint others →
      escapeTree others (escapeTree keys value) = escapeTree (keys ++ others) value ∧
        escapeTree keys (escapeTree others value) = escapeTree (keys ++ others) value := by
  refine ⟨escapedUnder_escapeTree hplain keys, fun others h => escapeTree_congr_keys h value,
    fun others h => ⟨escapeTree_of_disjoint h value, ?_⟩⟩
  have hboth : ∀ name, name ∈ others ++ keys ↔ name ∈ keys ++ others := by
    intro name
    rw [List.mem_append, List.mem_append, or_comm]
  rw [escapeTree_of_disjoint (List.disjoint_symm h), escapeTree_congr_keys hboth]

/-- A tree with quotes in a text, in a list under the name of a text and under another name. -/
def quotedSection : Json :=
  .object [("text", .object [("text", .string "it's"), ("type", .string "'raw'")]),
    ("alt_text", .list [.string "isn't", .object [("alt_text", .string "\"a\"")]])]

/-- Of the five strings two are texts, and it is all one whether both names are listed at once. -/
theorem escapeTree_by_place_of_quotedSection :
    (escapeTree ["alt_text", "text", "text"] quotedSection).at? [.member "text", .member "text"] =
        some (.string "it\\'s") ∧
      escapeTree ["alt_text"] (escapeTree ["text"] quotedSection) = .object
        [("text", .object [("text", .string "it\\'s"), ("type", .string "'raw'")]),
          ("alt_text", .list [.string "isn't", .object [("alt_text", .string "\\\"a\\\"")]])] := by
  have hplain : isPlain quotedSection = true := by decide +kernel
  obtain ⟨hplaces, -, -⟩ := escapeTree_by_place hplain ["alt_text", "text", "text"]
  obtain ⟨-, -, htogether⟩ := escapeTree_by_place hplain ["text"]
  have hapart : List.Disjoint [Text.ofString "text"] ["alt_text"] := by simp
  constructor
  · have hescaped := hplaces.escaped [.member "text"] "text" "it's" (by simp) (by decide +kernel)
    have hquotes : escapeQuotes "it's" = "it\\'s" := by decide +kernel
    rw [hquotes] at hescaped
    exact hescaped
  · rw [(htogether ["alt_text"] hapart).1]
    decide +kernel

end

end SlackCourier.Message
