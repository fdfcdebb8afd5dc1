import SlackCourier.Message.Payload
import SlackCourier.Proofs.Json.Place

/-!
# The texts of a tree

The texts of a tree are the strings that stand directly under certain names.  Changing them, each by
one function, changes nothing else: what stands at a place afterwards is what stood there before,
and a leaf is another one only if it is a text.  Escaping a tree changes its texts, and so does
taking the escapes back.
-/

namespace SlackCourier.Message

open Json

/-- A string value changed by a function; any other value as it is. -/
def onString (change : Text → Text) : Json → Json
  | .string s => .string (change s)
  | value => value

/-- A value under a name, changed if it is a text. -/
def underName (keys : List Text) (change : Text → Text) (name : Text) (value : Json) : Json :=
  if keys.contains name then onString change value else value

/-- Members with their own texts changed, and nothing below them. -/
def mapOwnTexts (keys : List Text) (change : Text → Text) (members : Members) : Members :=
  members.map fun m => (m.1, underName keys change m.1 m.2)

mutual

/-- A tree with its texts changed, at any depth. -/
def mapTexts (keys : List Text) (change : Text → Text) : Json → Json
  | .list items => .list (mapItemTexts keys change items)
  | .object members => .object (mapMemberTexts keys change members)
  | value => value

def mapItemTexts (keys : List Text) (change : Text → Text) : List Json → List Json
  | [] => []
  | v :: rest => mapTexts keys change v :: mapItemTexts keys change rest

def mapMemberTexts (keys : List Text) (change : Text → Text) :
    List (Text × Json) → List (Text × Json)
  | [] => []
  | (k, v) :: rest =>
    (k, underName keys change k (mapTexts keys change v)) :: mapMemberTexts keys change rest

end

section

variable (keys : List Text) (change other : Text → Text)

theorem mapItemTexts_eq_map (items : List Json) :
    mapItemTexts keys change items = items.map (mapTexts keys change) := by
  induction items with
  | nil => rfl
  | cons v rest ih => rw [mapItemTexts, ih, List.map_cons]

theorem mapMemberTexts_eq_map (members : Members) :
    mapMemberTexts keys change members =
      members.map fun m => (m.1, underName keys change m.1 (mapTexts keys change m.2)) := by
  induction members with
  | nil => rfl
  | cons m rest ih =>
    obtain ⟨k, v⟩ := m
    rw [mapMemberTexts, ih, List.map_cons]

theorem mapTexts_of_isLeaf {value : Json} (h : value.isLeaf = true) :
    mapTexts keys change value = value := by
  cases value with
  | list | object => cases h
  | _ => rfl

theorem onString_onString (value : Json) :
    onString change (onString other value) = onString (change ∘ other) value := by
  cases value <;> rfl

theorem onString_id (value : Json) : onString id value = value := by
  cases value <;> rfl

theorem underName_underName (name : Text) (value : Json) :
    underName keys change name (underName keys other name value) =
      underName keys (change ∘ other) name value := by
  unfold underName
  split_ifs
  · exact onString_onString change other value
  · rfl

theorem underName_id (name : Text) (value : Json) : underName keys id name value = value := by
  unfold underName
  split_ifs
  · exact onString_id value
  · rfl

/-- A change of the texts below commutes with one of the value itself, whatever names it heeds. -/
theorem mapTexts_underName (others : List Text) (name : Text) (value : Json) :
    mapTexts keys change (underName others other name value) =
      underName others other name (mapTexts keys change value) := by
  unfold underName
  split_ifs
  · cases value <;> rfl
  · rfl

theorem mapTexts_mapTexts (value : Json) :
    mapTexts keys change (mapTexts keys other value) = mapTexts keys (change ∘ other) value := by
  induction value using tree_induct with
  | leaf value h => simp only [mapTexts_of_isLeaf _ _ h]
  | list items ih =>
    simp only [mapTexts, mapItemTexts_eq_map, List.map_map, Json.list.injEq]
    exact List.map_congr_left ih
  | object members ih =>
    simp only [mapTexts, mapMemberTexts_eq_map, List.map_map, Json.object.injEq]
    refine List.map_congr_left fun m hm => ?_
    rw [Function.comp_apply, mapTexts_underName, underName_underName, ih m hm]

theorem mapTexts_id (value : Json) : mapTexts keys id value = value := by
  induction value using tree_induct with
  | leaf value h => exact mapTexts_of_isLeaf _ _ h
  | list items ih =>
    rw [mapTexts, mapItemTexts_eq_map, List.map_congr_left ih, List.map_id']
  | object members ih =>
    have hmembers : ∀ m ∈ members,
        (m.1, underName keys id m.1 (mapTexts keys id m.2)) = m := by
      intro m hm
      rw [underName_id, ih m hm]
    rw [mapTexts, mapMemberTexts_eq_map, List.map_congr_left hmembers, List.map_id']

theorem mapMemberTexts_mapMemberTexts (members : Members) :
    mapMemberTexts keys change (mapMemberTexts keys other members) =
      mapMemberTexts keys (change ∘ other) members :=
  Json.object.inj (mapTexts_mapTexts keys change other (.object members))

theorem mapMemberTexts_id (members : Members) : mapMemberTexts keys id members = members :=
  Json.object.inj (mapTexts_id keys (.object members))

theorem mapOwnTexts_mapOwnTexts (members : Members) :
    mapOwnTexts keys change (mapOwnTexts keys other members) =
      mapOwnTexts keys (change ∘ other) members := by
  unfold mapOwnTexts
  rw [List.map_map]
  refine List.map_congr_left fun m _ => ?_
  rw [Function.comp_apply, underName_underName]

theorem mapOwnTexts_id (members : Members) : mapOwnTexts keys id members = members := by
  unfold mapOwnTexts
  have hmembers : ∀ m ∈ members, (m.1, underName keys id m.1 m.2) = m := by
    intro m _
    rw [underName_id]
  rw [List.map_congr_left hmembers, List.map_id']

theorem lookup_mapOwnTexts (members : Members) (name : Text) :
    (mapOwnTexts keys change members).lookup name =
      (members.lookup name).map (underName keys change name) :=
  lookup_map_value (underName keys change) members name

/-- Whether a path ends in one of the names under which the texts stand. -/
def endsUnder (path : List Branch) : Bool :=
  match path.getLast? with
  | some (.member name) => keys.contains name
  | _ => false

/-- What stands at the end of a path, changed if it is a text. -/
def underPath (path : List Branch) (value : Json) : Json :=
  if endsUnder keys path then onString change value else value

@[simp] theorem endsUnder_cons_cons (first second : Branch) (path : List Branch) :
    endsUnder keys (first :: second :: path) = endsUnder keys (second :: path) := by
  simp [endsUnder]

theorem child?_onString (value : Json) (branch : Branch) :
    (onString change value).child? branch = value.child? branch := by
  cases value <;> cases branch <;> rfl

theorem at?_underPath_cons (before : List Branch) (value : Json) (branch : Branch)
    (path : List Branch) :
    (underPath keys change before value).at? (branch :: path) = value.at? (branch :: path) := by
  unfold underPath
  split_ifs
  · rw [at?_cons, child?_onString, at?_cons]
  · rfl

theorem child?_mapTexts (value : Json) (branch : Branch) :
    (mapTexts keys change value).child? branch =
      (value.child? branch).map fun child =>
        underPath keys change [branch] (mapTexts keys change child) := by
  cases value with
  | list items =>
    cases branch with
    | member name => rfl
    | item position =>
      rw [mapTexts, mapItemTexts_eq_map, child?_item, child?_item, List.getElem?_map]
      rfl
  | object members =>
    cases branch with
    | item position => rfl
    | member name =>
      rw [mapTexts, mapMemberTexts_eq_map, child?_member, child?_member]
      exact lookup_map_value
        (fun key v => underName keys change key (mapTexts keys change v)) members name
  | null | bool | number | string =>
    rw [mapTexts_of_isLeaf _ _ rfl, child?_of_isLeaf rfl, Option.map_none]

/-- At every place there stands what stood there before, with the texts below it changed, and
changed itself if it is a text. -/
theorem at?_mapTexts (value : Json) (path : List Branch) :
    (mapTexts keys change value).at? path =
      (value.at? path).map fun found =>
        underPath keys change path (mapTexts keys change found) := by
  induction path generalizing value with
  | nil => rfl
  | cons branch path ih =>
    rw [at?_cons, at?_cons, child?_mapTexts, Option.bind_map, Option.map_bind]
    cases value.child? branch with
    | none => rfl
    | some child =>
      cases path with
      | nil => rfl
      | cons next path =>
        have hpath : underPath keys change (branch :: next :: path) =
            underPath keys change (next :: path) := by
          funext found
          simp [underPath]
        simp only [Option.bind_some, Function.comp_apply, hpath, at?_underPath_cons]
        exact ih child

theorem at?_mapTexts_of_isLeaf {value leaf : Json} {path : List Branch}
    (h : leaf.isLeaf = true) (hfound : value.at? path = some leaf) :
    (mapTexts keys change value).at? path = some (underPath keys change path leaf) := by
  rw [at?_mapTexts, hfound, Option.map_some, mapTexts_of_isLeaf _ _ h]

theorem onString_eq_string_iff {value : Json} {s : Text} :
    onString change value = .string s ↔ ∃ t, value = .string t ∧ s = change t := by
  cases value <;> simp [onString, eq_comm]

theorem mapTexts_eq_string_iff {value : Json} {s : Text} :
    mapTexts keys change value = .string s ↔ value = .string s := by
  cases value <;> simp [mapTexts]

theorem at?_mapTexts_eq_string_iff {value : Json} {path : List Branch} {s : Text}
    (h : endsUnder keys path = true) :
    (mapTexts keys change value).at? path = some (.string s) ↔
      ∃ t, value.at? path = some (.string t) ∧ s = change t := by
  simp only [at?_mapTexts, underPath, h, if_true, Option.map_eq_some_iff, onString_eq_string_iff,
    mapTexts_eq_string_iff]
  constructor
  · rintro ⟨found, hfound, t, rfl, hs⟩
    exact ⟨t, hfound, hs⟩
  · rintro ⟨t, hfound, hs⟩
    exact ⟨.string t, hfound, t, rfl, hs⟩

theorem isPlainMembers_iff {members : Members} :
    isPlainMembers members = true ↔
      ∀ m ∈ members, m.1 ≠ reservedName ∧ isPlain m.2 = true := by
  induction members with
  | nil => simp [isPlainMembers]
  | cons m rest ih => simp [isPlainMembers, ih, and_assoc]

theorem isPlainItems_iff {items : List Json} :
    isPlainItems items = true ↔ ∀ v ∈ items, isPlain v = true := by
  induction items with
  | nil => simp [isPlainItems]
  | cons v rest ih => simp [isPlainItems, ih]

theorem isPlain_underName (name : Text) (value : Json) :
    isPlain (underName keys change name value) = isPlain value := by
  unfold underName
  split_ifs
  · cases value <;> rfl
  · rfl

theorem isPlain_mapTexts (value : Json) :
    isPlain (mapTexts keys change value) = isPlain value := by
  induction value using tree_induct with
  | leaf value h => rw [mapTexts_of_isLeaf _ _ h]
  | list items ih =>
    rw [mapTexts, isPlain, isPlain, Bool.eq_iff_iff, isPlainItems_iff, isPlainItems_iff,
      mapItemTexts_eq_map, List.forall_mem_map]
    exact forall₂_congr fun v hv => by rw [ih v hv]
  | object members ih =>
    rw [mapTexts, isPlain, isPlain, Bool.eq_iff_iff, isPlainMembers_iff, isPlainMembers_iff,
      mapMemberTexts_eq_map, List.forall_mem_map]
    exact forall₂_congr fun m hm => by rw [isPlain_underName, ih m hm]

end

theorem escapeString_eq (value : Json) : escapeString value = onString escapeQuotes value := by
  cases value <;> rfl

theorem escapeAttachmentTexts_eq (attachment : Members) :
    escapeAttachmentTexts attachment = mapOwnTexts attachmentKeys escapeQuotes attachment := by
  unfold escapeAttachmentTexts mapOwnTexts underName
  simp only [escapeString_eq]

mutual

theorem escapeTree_eq (keys : List Text) : (value : Json) →
    escapeTree keys value = mapTexts keys escapeQuotes (dropReserved value)
  | .list items => by rw [escapeTree, escapeItems_eq keys items, dropReserved, mapTexts]
  | .object members => by rw [escapeTree, escapeMembers_eq keys members, dropReserved, mapTexts]
  | .null | .bool _ | .number _ | .string _ => rfl

theorem escapeItems_eq (keys : List Text) : (items : List Json) →
    escapeItems keys items = mapItemTexts keys escapeQuotes (dropReservedItems items)
  | [] => rfl
  | v :: rest => by
    rw [escapeItems, escapeTree_eq keys v, escapeItems_eq keys rest, dropReservedItems,
      mapItemTexts]

theorem escapeMembers_eq (keys : List Text) : (members : List (Text × Json)) →
    escapeMembers keys members = mapMemberTexts keys escapeQuotes (dropReservedMembers members)
  | [] => rfl
  | (k, v) :: rest => by
    rw [escapeMembers, dropReservedMembers]
    split_ifs with hname hkey
    · exact escapeMembers_eq keys rest
    · rw [mapMemberTexts, escapeString_eq, escapeTree_eq keys v, escapeMembers_eq keys rest,
        underName, if_pos hkey]
    · rw [mapMemberTexts, escapeTree_eq keys v, escapeMembers_eq keys rest, underName,
        if_neg hkey]

end

theorem sentBlock_eq (block : Members) :
    sentBlock block = mapMemberTexts blockKeys escapeQuotes (dropReservedMembers block) :=
  escapeMembers_eq blockKeys block

theorem sentBlock_of_isPlain {block : Members} (h : isPlainMembers block = true) :
    sentBlock block = mapMemberTexts blockKeys escapeQuotes block := by
  rw [sentBlock_eq, dropReservedMembers_eq_self h]

theorem unescapeQuotes_comp_escapeQuotes : unescapeQuotes ∘ escapeQuotes = id :=
  funext unescapeQuotes_escapeQuotes

end SlackCourier.Message
