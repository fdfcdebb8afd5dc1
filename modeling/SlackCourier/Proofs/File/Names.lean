import SlackCourier.File.Path
import SlackCourier.Proofs.Text.Pieces

/-!
# Names and path texts

What a name of a path text is made of, and that a path written out is read back.  An absolute path
whose names all are names has one text, and walking that text walks the same names; so the path that
was checked and the path that is opened later are the same.
-/

namespace SlackCourier

namespace File

/-- What a piece of a path text can be: a name, or one of the two that move within a path. -/
def IsPiece (name : Text) : Prop := name.units ≠ [] ∧ Text.unit '/' ∉ name.units

def IsName (name : Text) : Prop := IsPiece name ∧ name ≠ "." ∧ name ≠ ".."

def IsPath (path : Path) : Prop := ∀ name ∈ path, IsName name

instance : DecidablePred IsPiece := fun name =>
  inferInstanceAs (Decidable (name.units ≠ [] ∧ Text.unit '/' ∉ name.units))

instance : DecidablePred IsName := fun name =>
  inferInstanceAs (Decidable (IsPiece name ∧ name ≠ "." ∧ name ≠ ".."))

instance : DecidablePred IsPath := fun path =>
  inferInstanceAs (Decidable (∀ name ∈ path, IsName name))

theorem IsPath.isPiece {path : Path} (h : IsPath path) : ∀ name ∈ path, IsPiece name :=
  fun name hn => (h name hn).1

theorem isPath_nil : IsPath [] := fun name h => by simp at h

theorem IsPath.concat {path : Path} {name : Text} (h : IsPath path) (hn : IsName name) :
    IsPath (path ++ [name]) := by
  intro n hmem
  rcases List.mem_append.mp hmem with hmem | hmem
  · exact h n hmem
  · rw [List.mem_singleton.mp hmem]
    exact hn

theorem IsPath.dropLast {path : Path} (h : IsPath path) : IsPath path.dropLast :=
  fun name hn => h name (List.dropLast_subset path hn)

theorem IsPath.origin {directory : Path} (h : IsPath directory) (text : Text) :
    IsPath (origin directory text) := by
  unfold File.origin
  split_ifs
  · exact isPath_nil
  · exact h

theorem isPiece_of_mem_names {text : Text} : ∀ name ∈ names text, IsPiece name := by
  intro name hn
  obtain ⟨hsplit, hne⟩ := List.mem_filter.mp hn
  obtain ⟨us, hus, rfl⟩ := List.mem_map.mp hsplit
  have hslash := Text.notMem_of_mem_splitList us hus
  have hnil : us ≠ [] := fun h => by simp [h] at hne
  exact ⟨hnil, hslash⟩

theorem IsPiece.mended {name : Text} (h : IsPiece name) : IsPiece name.mended := by
  have hunits : name.mended.units = Text.unitsOf (Text.charsOf name.units) := rfl
  constructor
  · intro hnil
    have hchars := Text.charsOf_unitsOf (Text.charsOf name.units)
    rw [← hunits, hnil] at hchars
    exact Text.charsOf_ne_nil h.1 hchars.symm
  · rw [hunits]
    intro hmem
    have hslash := Text.mem_of_unit_mem_unitsOf (by decide) hmem
    exact h.2 (Text.slash_mem_of_mem_charsOf hslash)

theorem isPiece_of_mem_stored {names : List Text} (h : ∀ name ∈ names, IsPiece name) :
    ∀ name ∈ stored names, IsPiece name := by
  intro name hn
  obtain ⟨piece, hp, rfl⟩ := List.mem_map.mp hn
  exact (h piece hp).mended

theorem isPiece_of_mem_segments {text : Text} : ∀ name ∈ segments text, IsPiece name := by
  intro name hn
  unfold segments at hn
  split_ifs at hn
  · rcases List.mem_append.mp hn with hn | hn
    · exact isPiece_of_mem_stored isPiece_of_mem_names name hn
    · rw [List.mem_singleton.mp hn]
      constructor <;> decide
  · exact isPiece_of_mem_stored isPiece_of_mem_names name hn

theorem mended_of_mem_stored {names : List Text} :
    ∀ name ∈ stored names, name.mended = name := by
  intro name hn
  obtain ⟨piece, -, rfl⟩ := List.mem_map.mp hn
  exact Text.mended_mended piece

theorem mended_of_mem_segments {text : Text} : ∀ name ∈ segments text, name.mended = name := by
  intro name hn
  unfold segments at hn
  split_ifs at hn
  · rcases List.mem_append.mp hn with hn | hn
    · exact mended_of_mem_stored name hn
    · rw [List.mem_singleton.mp hn]
      decide
  · exact mended_of_mem_stored name hn

theorem stored_eq_self {names : List Text} (h : ∀ name ∈ names, name.mended = name) :
    stored names = names :=
  (List.map_congr_left h).trans (List.map_id names)

theorem IsPath.step {here : Path} {name : Text} (h : IsPath here) (hn : IsPiece name) :
    IsPath (step here name) := by
  unfold File.step
  split_ifs with hdot hdots
  · exact h
  · exact h.dropLast
  · exact h.concat ⟨hn, hdot, hdots⟩

theorem IsPath.resolve {base : Path} (h : IsPath base) (text : Text) :
    IsPath (resolve base text) := by
  have hfold : ∀ (pieces : List Text) (here : Path), IsPath here →
      (∀ name ∈ pieces, IsPiece name) → IsPath (pieces.foldl File.step here) := by
    intro pieces
    induction pieces with
    | nil => exact fun here hhere _ => hhere
    | cons name rest ih =>
      intro here hhere hp
      exact ih _ (hhere.step (hp name (by simp))) fun n hn => hp n (by simp [hn])
  exact hfold _ _ (h.origin text) isPiece_of_mem_names

theorem units_render (path : Path) :
    (render path).units =
      Text.unit '/' :: Text.joinList [Text.unit '/'] (path.map Text.units) := rfl

theorem isAbsolute_render (path : Path) : isAbsolute (render path) = true := by
  show List.isPrefixOf [Text.unit '/'] (render path).units = true
  rw [units_render]
  simp [List.isPrefixOf]

theorem origin_render (directory path : Path) : origin directory (render path) = [] := by
  unfold origin
  rw [if_pos (isAbsolute_render path)]

theorem splitList_join {names : List Text} (hne : names ≠ []) (h : ∀ name ∈ names, IsPiece name) :
    Text.splitList (Text.unit '/') (Text.join "/" names).units = names.map Text.units := by
  apply Text.splitList_joinList (by simpa using hne)
  intro us hus
  obtain ⟨name, hn, rfl⟩ := List.mem_map.mp hus
  exact (h name hn).2

theorem names_render {path : Path} (hne : path ≠ []) (h : ∀ name ∈ path, IsPiece name) :
    names (render path) = path := by
  have hsplit : Text.splitList (Text.unit '/') (render path).units = [] :: path.map Text.units := by
    rw [units_render, ← List.nil_append (Text.unit '/' :: _),
      Text.splitList_append_cons (by simp)]
    exact congrArg _ (splitList_join hne h)
  have hkeep : path.filter (fun piece => piece != ⟨[]⟩) = path := by
    apply List.filter_eq_self.2
    intro piece hp
    rw [bne_iff_ne]
    exact fun e => (h piece hp).1 (congrArg Text.units e)
  unfold names Text.split
  rw [hsplit, List.map_cons, List.map_map, List.filter_cons_of_neg (by simp)]
  have hmap : path.map (Text.mk ∘ Text.units) = path := List.map_id path
  rw [hmap, hkeep]

theorem getLast?_joinList {α : Type} (sep : List α) {pieces : List (List α)} (hne : pieces ≠ [])
    (h : ∀ piece ∈ pieces, piece ≠ []) :
    ∃ piece ∈ pieces, (Text.joinList sep pieces).getLast? = piece.getLast? := by
  induction pieces with
  | nil => exact absurd rfl hne
  | cons piece pieces ih =>
    cases pieces with
    | nil => exact ⟨piece, by simp, rfl⟩
    | cons next rest =>
      obtain ⟨last, hl, he⟩ := ih (by simp) fun p hp => h p (by simp [hp])
      refine ⟨last, by simp [hl], ?_⟩
      have hlast : last.getLast?.isSome := by simpa using h last (by simp [hl])
      rw [Text.joinList, List.getLast?_append, he, Option.or_of_isSome hlast]
      simp

theorem segments_render {path : Path} (hne : path ≠ []) (h : ∀ name ∈ path, IsPiece name) :
    segments (render path) = stored path := by
  have hlast : (render path).units.getLast? ≠ some (Text.unit '/') := by
    have hpieces : ∀ us ∈ path.map Text.units, us ≠ [] := by
      intro us hus
      obtain ⟨name, hn, rfl⟩ := List.mem_map.mp hus
      exact (h name hn).1
    obtain ⟨us, hus, he⟩ := getLast?_joinList [Text.unit '/'] (by simpa using hne) hpieces
    obtain ⟨name, hn, rfl⟩ := List.mem_map.mp hus
    have hname := h name hn
    rw [units_render, List.getLast?_cons, he]
    intro hslash
    apply hname.2
    apply List.mem_of_getLast?
    cases hg : name.units.getLast? with
    | none => exact absurd (List.getLast?_eq_none_iff.1 hg) hname.1
    | some u =>
      rw [hg] at hslash
      simpa using hslash
  unfold segments
  rw [if_neg hlast, names_render hne h]

end File

end SlackCourier
