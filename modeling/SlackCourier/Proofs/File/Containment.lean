import SlackCourier.Proofs.File.Walk
import SlackCourier.Proofs.File.Way

/-!
# What a contained path leads to

The path that is let through for an upload, followed up to the reading of the file.  Either the path
resolved when it was checked, and then what is read later stands at that very place; or it did not
resolve, and then nothing can be read there later, since files only disappear.
-/

namespace SlackCourier.File

open File.Tree

/-- A base directory is the canonical path of the root, or what the root denotes lexically when it
has no canonical path. -/
def IsBase (tree : Tree) (directory : Path) (root : Text) (base : Path) : Prop :=
  tree.canonicalOf directory root = .ok base ∨
    (∃ error, tree.canonicalOf directory root = .error error) ∧ base = resolve directory root

theorem isBase_rootPath (tree : Tree) (directory : Path) (root : Text) :
    IsBase tree directory root (rootPath tree directory root) := by
  unfold IsBase rootPath
  cases h : tree.canonicalOf directory root with
  | ok base => exact Or.inl rfl
  | error error => exact Or.inr ⟨⟨error, rfl⟩, rfl⟩

theorem IsBase.eq_rootPath {tree : Tree} {directory base : Path} {root : Text}
    (h : IsBase tree directory root base) : base = rootPath tree directory root := by
  unfold rootPath
  rcases h with h | ⟨⟨error, h⟩, rfl⟩
  · rw [h]
  · rw [h]

theorem isPath_rootPath {tree : Tree} {directory : Path} (hdir : IsPath directory) (root : Text) :
    IsPath (rootPath tree directory root) := by
  unfold rootPath
  cases h : tree.canonicalOf directory root with
  | error error => exact hdir.resolve root
  | ok base =>
    unfold canonicalOf at h
    split_ifs at h
    exact (walks_of_walk h).isPath (hdir.origin root) isPiece_of_mem_segments

theorem isPath_targetPath (tree : Tree) {path : Path} (h : IsPath path) :
    IsPath (targetPath tree path) := by
  unfold targetPath
  cases hc : tree.canonical path with
  | error error => exact h
  | ok target => exact (walks_of_walk hc).isPath isPath_nil (isPiece_of_mem_stored h.isPiece)

theorem uploadPath_eq_some_iff {tree : Tree} {directory target : Path} {root requested : Text}
    (hdir : IsPath directory) :
    uploadPath tree directory root requested = some target ↔
      target = targetPath tree (resolve (rootPath tree directory root) requested) ∧
        IsStrictlyBelow (rootPath tree directory root) target := by
  have hbase : IsPath (rootPath tree directory root) := isPath_rootPath hdir root
  have hpath := isPath_targetPath tree (hbase.resolve requested)
  unfold uploadPath
  dsimp only
  split_ifs with hbelow
  · rw [isBelow_iff hbase hpath] at hbelow
    constructor
    · intro h
      cases h
      exact ⟨rfl, hbelow⟩
    · rintro ⟨rfl, -⟩
      rfl
  · rw [isBelow_iff hbase hpath] at hbelow
    simp only [false_iff, not_and]
    rintro rfl
    exact hbelow

theorem uploadPath_eq_none_iff {tree : Tree} {directory : Path} {root requested : Text}
    (hdir : IsPath directory) :
    uploadPath tree directory root requested = none ↔
      ¬ IsStrictlyBelow (rootPath tree directory root)
        (targetPath tree (resolve (rootPath tree directory root) requested)) := by
  simp [Option.eq_none_iff_forall_ne_some, uploadPath_eq_some_iff hdir]

theorem read_targetPath {tree later : Tree} (hlater : Within later tree) {directory path : Path}
    {content : Text.Bytes} (hne : targetPath tree path ≠ []) (hpath : IsPath path)
    (hread : later.read directory (render (targetPath tree path)) = .ok content) :
    Direct tree (targetPath tree path) ∧
      tree.node? (targetPath tree path) = some (.file content) := by
  obtain ⟨last, hlast, hnode⟩ :=
    canonical_of_read_render hne (isPath_targetPath tree hpath) (hlater.read hread)
  unfold targetPath at hlast ⊢
  cases hc : tree.canonical path with
  | error error =>
    rw [hc] at hlast
    dsimp only at hlast
    rw [hc] at hlast
    cases hlast
  | ok target =>
    have hdirect := direct_of_canonical hc
    rw [hc] at hlast
    dsimp only at hlast ⊢
    rw [hdirect.canonical_eq, Except.ok.injEq] at hlast
    exact ⟨hdirect, hlast ▸ hnode⟩

/-- Whatever is read later under a path that was let through is a file that stood strictly below the
root when the path was checked. -/
theorem read_of_uploadPath {tree later : Tree} (hlater : Within later tree)
    {directory target : Path} {root requested : Text} {content : Text.Bytes}
    (hdir : IsPath directory) (h : uploadPath tree directory root requested = some target)
    (hread : later.read directory (render target) = .ok content) :
    Direct tree target ∧ tree.node? target = some (.file content) ∧
      IsStrictlyBelow (rootPath tree directory root) target := by
  obtain ⟨rfl, hbelow⟩ := (uploadPath_eq_some_iff hdir).1 h
  have hne : targetPath tree (resolve (rootPath tree directory root) requested) ≠ [] := by
    obtain ⟨name, rest, he⟩ := hbelow
    rw [he]
    simp
  have hpath : IsPath (resolve (rootPath tree directory root) requested) :=
    (isPath_rootPath hdir root).resolve requested
  obtain ⟨hdirect, hnode⟩ := read_targetPath hlater hne hpath hread
  exact ⟨hdirect, hnode, hbelow⟩

end SlackCourier.File
