import SlackCourier.Proofs.File.Containment

/-!
# Which paths are let through

A requested file is let through exactly when the names of the base begin its canonical path and
leave at least one more.  What is let through is written out as text and may be asked for again: the
text names that very path, and a canonical path is its own canonical path, so the answer is the
same.
-/

namespace SlackCourier.File

open File.Tree

/-- The target of an absolute path is its canonical path, or the path itself when it has none. -/
def IsTarget (tree : Tree) (path target : Path) : Prop :=
  tree.canonical path = .ok target ∨
    (∃ error, tree.canonical path = .error error) ∧ target = path

theorem isTarget_targetPath (tree : Tree) (path : Path) :
    IsTarget tree path (targetPath tree path) := by
  unfold IsTarget targetPath
  cases h : tree.canonical path with
  | ok target => exact Or.inl rfl
  | error error => exact Or.inr ⟨⟨error, rfl⟩, rfl⟩

theorem targetPath_targetPath (tree : Tree) (path : Path) :
    targetPath tree (targetPath tree path) = targetPath tree path := by
  cases hc : tree.canonical path with
  | ok target =>
    have htarget : targetPath tree path = target := by rw [targetPath, hc]
    rw [htarget, targetPath, (direct_of_canonical hc).canonical_eq]
  | error error =>
    have htarget : targetPath tree path = path := by rw [targetPath, hc]
    rw [htarget, htarget]

theorem foldl_step {path : Path} (h : IsPath path) (here : Path) :
    path.foldl step here = here ++ path := by
  induction path generalizing here with
  | nil => simp
  | cons name rest ih =>
    obtain ⟨-, hdot, hdots⟩ := h name (by simp)
    have hrest : IsPath rest := fun n hn => h n (by simp [hn])
    rw [List.foldl_cons, step, if_neg hdot, if_neg hdots, ih hrest]
    simp

theorem resolve_render {path : Path} (hne : path ≠ []) (h : IsPath path) (base : Path) :
    resolve base (render path) = path := by
  rw [resolve, names_render hne h.isPiece, origin_render, foldl_step h, List.nil_append]

theorem uploadPath_render {tree : Tree} {directory path : Path} {root requested : Text}
    (hdir : IsPath directory) (h : uploadPath tree directory root requested = some path) :
    uploadPath tree directory root (render path) = some path := by
  obtain ⟨rfl, hbelow⟩ := (uploadPath_eq_some_iff hdir).1 h
  have hbase : IsPath (rootPath tree directory root) := isPath_rootPath hdir root
  have hpath := isPath_targetPath tree (hbase.resolve requested)
  have hne : targetPath tree (resolve (rootPath tree directory root) requested) ≠ [] := by
    obtain ⟨name, rest, he⟩ := hbelow
    simp [he]
  apply (uploadPath_eq_some_iff hdir).2
  rw [resolve_render hne hpath, targetPath_targetPath]
  exact ⟨rfl, hbelow⟩

/-- A requested path is answered by its target when the names of the base are a proper initial part
of the names of the target, and refused otherwise; and a path that was the answer is its own answer.
Of the working directory only what holds of every absolute path is asked. -/
theorem uploadPath_decides_by_names (tree : Tree) (directory : Path) (root requested : Text)
    (hdir : IsPath directory) :
    (∃ base target, IsBase tree directory root base ∧
      IsTarget tree (resolve base requested) target ∧
        (IsStrictlyBelow base target → uploadPath tree directory root requested = some target) ∧
          (¬ IsStrictlyBelow base target → uploadPath tree directory root requested = none)) ∧
    ∀ path, uploadPath tree directory root requested = some path →
      uploadPath tree directory root (render path) = some path := by
  constructor
  · refine ⟨_, _, isBase_rootPath .., isTarget_targetPath .., ?_, ?_⟩
    · intro hbelow
      exact (uploadPath_eq_some_iff hdir).2 ⟨rfl, hbelow⟩
    · intro houtside
      exact (uploadPath_eq_none_iff hdir).2 houtside
  · intro path hpath
    exact uploadPath_render hdir hpath

namespace Sample

/-- A file whose name only looks like going up. -/
def dotted : Path := ["srv", "up", "..x"]

/-- A root directory with the file, a link to it, and a link into a directory beside the root. -/
def linkedTree : Tree :=
  ⟨[(["srv"], .directory), (["srv", "up"], .directory), (dotted, .file [1]),
    (["srv", "up2"], .directory), (["srv", "up2", "a"], .file [2]),
    (["srv", "up", "l"], .link "..x"), (["srv", "up", "m"], .link "../up2/a")]⟩

end Sample

/-- A file that is reached through a link is the answer, and so is what its own path asks for. -/
theorem uploadPath_decides_by_names_through_link :
    IsPath ["srv"] ∧ uploadPath Sample.linkedTree ["srv"] "up" "l" = some Sample.dotted ∧
      uploadPath Sample.linkedTree ["srv"] "up" (render Sample.dotted) = some Sample.dotted := by
  have hdir : IsPath ["srv"] := by decide
  have hlink : uploadPath Sample.linkedTree ["srv"] "up" "l" = some Sample.dotted := by decide
  exact ⟨hdir, hlink, (uploadPath_decides_by_names _ _ _ _ hdir).2 _ hlink⟩

example : uploadPath Sample.linkedTree ["srv"] "/" "srv/up/..x" = some Sample.dotted := by decide

/-- The name of the directory beside the root begins with the name of the root. -/
example : uploadPath Sample.linkedTree ["srv"] "up" "m" = none := by decide

end SlackCourier.File
