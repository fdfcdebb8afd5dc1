import Mathlib.Data.List.Induction
import SlackCourier.Proofs.File.Containment

/-!
# Files that are not there

A path that does not resolve is taken as it is written, so the links on its way are not followed at
all, not even those that can be.  When the part of the path that is there leads out of the root, the
path is refused only if all of it is there, or if it is written to lead out.  A link out of the root
therefore tells which names exist behind it.
-/

namespace SlackCourier.File

open File.Tree

/-- The longest initial part of a path that resolves, and where it leads. -/
structure Reaches (tree : Tree) (path front place : Path) : Prop where
  isPrefix : front <+: path
  resolves : tree.canonical front = .ok place
  longest : ∀ longer, longer <+: path → front.length < longer.length →
    ∃ error, tree.canonical longer = .error error

namespace Reaches

variable {tree : Tree} {path front place : Path}

theorem canonical_of_eq (h : Reaches tree path front place) (hfront : front = path) :
    tree.canonical path = .ok place :=
  hfront ▸ h.resolves

theorem canonical_of_ne (h : Reaches tree path front place) (hfront : front ≠ path) :
    ∃ error, tree.canonical path = .error error := by
  have hlt : front.length < path.length := by
    apply Nat.lt_of_le_of_ne h.isPrefix.length_le
    exact fun hlen => hfront (h.isPrefix.eq_of_length hlen)
  exact h.longest path (List.prefix_refl path) hlt

end Reaches

section

variable {tree : Tree} {directory base : Path} {root requested : Text}

theorem uploadPath_eq_none_iff_of_ok {place : Path} (hdir : IsPath directory)
    (hbase : IsBase tree directory root base)
    (h : tree.canonical (resolve base requested) = .ok place) :
    uploadPath tree directory root requested = none ↔ ¬ IsStrictlyBelow base place := by
  rw [uploadPath_eq_none_iff hdir, ← hbase.eq_rootPath, targetPath, h]

theorem uploadPath_eq_none_iff_of_error {error : AccessError} (hdir : IsPath directory)
    (hbase : IsBase tree directory root base)
    (h : tree.canonical (resolve base requested) = .error error) :
    uploadPath tree directory root requested = none ↔
      ¬ IsStrictlyBelow base (resolve base requested) := by
  rw [uploadPath_eq_none_iff hdir, ← hbase.eq_rootPath, targetPath, h]

end

/-- A path on which the existing part leads out of the root is refused exactly when all of it exists
or when it leads out as it is written.  So the answers on a file that is there and on one that is
not are the same only for paths that lead out as written; for the others they tell the two apart.
Of the working directory only what holds of every absolute path is asked. -/
theorem outside_refused_iff (tree : Tree) (directory : Path) (root requested : Text)
    (base front place : Path) (hdir : IsPath directory) (hbase : IsBase tree directory root base)
    (hreach : Reaches tree (resolve base requested) front place)
    (hout : place ≠ base ∧ ¬ IsStrictlyBelow base place) :
    (uploadPath tree directory root requested = none ↔
      front = resolve base requested ∨ ¬ IsStrictlyBelow base (resolve base requested)) ∧
    ∀ other otherFront otherPlace, IsBase other directory root base →
      Reaches other (resolve base requested) otherFront otherPlace →
        front = resolve base requested → otherFront ≠ resolve base requested →
          (uploadPath tree directory root requested = uploadPath other directory root requested ↔
            ¬ IsStrictlyBelow base (resolve base requested)) := by
  have hthere : front = resolve base requested →
      uploadPath tree directory root requested = none := by
    intro heq
    exact (uploadPath_eq_none_iff_of_ok hdir hbase (hreach.canonical_of_eq heq)).2 hout.2
  constructor
  · by_cases heq : front = resolve base requested
    · simp only [hthere heq, heq, true_or]
    · obtain ⟨error, hgone⟩ := hreach.canonical_of_ne heq
      simp only [uploadPath_eq_none_iff_of_error hdir hbase hgone, heq, false_or]
  · intro other otherFront otherPlace hobase horeach heq hne
    obtain ⟨error, hgone⟩ := horeach.canonical_of_ne hne
    rw [hthere heq, eq_comm, uploadPath_eq_none_iff_of_error hdir hobase hgone]

namespace Sample

/-- A root directory `up` with a link out of it. -/
def up : Path := ["srv", "up"]

def out : Path := ["srv", "up", "out"]

/-- The directory beside the root that the link leads to. -/
def away : Path := ["srv", "away"]

def behind : Path := ["srv", "away", "a"]

/-- A file behind the link, as the path to it is written. -/
def through : Path := ["srv", "up", "out", "a"]

def emptied : Tree :=
  ⟨[(["srv"], .directory), (up, .directory), (out, .link "../away"), (away, .directory)]⟩

def filled : Tree := emptied.put behind (.file [1])

theorem reaches_of_emptied : Reaches emptied (resolve up "out/a") out away := by
  refine ⟨⟨["a"], by decide⟩, by decide, ?_⟩
  intro longer hlonger hlt
  have hwhole : longer = resolve up "out/a" :=
    hlonger.eq_of_length (Nat.le_antisymm hlonger.length_le hlt)
  exact ⟨.missing, by rw [hwhole]; decide⟩

theorem reaches_of_filled : Reaches filled (resolve up "out/a") through behind := by
  refine ⟨⟨[], by decide⟩, by decide, ?_⟩
  intro longer hlonger hlt
  exact absurd hlonger.length_le (Nat.not_le.2 hlt)

theorem not_isStrictlyBelow_away (rest : List Text) :
    ¬ IsStrictlyBelow up ("srv" :: "away" :: rest) := by
  rintro ⟨name, more, he⟩
  have hsecond := (List.cons.inj (List.cons.inj he).2).1
  exact absurd hsecond (by decide)

end Sample

/-- A file behind a link out of the root: refused while it is there, let through while it is not. -/
theorem missing_outside_let_through :
    IsPath ["srv"] ∧ IsBase Sample.emptied ["srv"] "up" Sample.up ∧
    Reaches Sample.emptied (resolve Sample.up "out/a") Sample.out Sample.away ∧
    Sample.away ≠ Sample.up ∧ ¬ IsStrictlyBelow Sample.up Sample.away ∧
    uploadPath Sample.emptied ["srv"] "up" "out/a" = some Sample.through ∧
    uploadPath Sample.filled ["srv"] "up" "out/a" = none := by
  have hleft : uploadPath Sample.emptied ["srv"] "up" "out/a" = some Sample.through := by decide
  have hrefused : uploadPath Sample.filled ["srv"] "up" "out/a" = none := by decide
  exact ⟨by decide, Or.inl (by decide), Sample.reaches_of_emptied, by decide,
    Sample.not_isStrictlyBelow_away [], hleft, hrefused⟩

theorem outside_refused_iff_of_filled :
    IsPath ["srv"] ∧ IsBase Sample.filled ["srv"] "up" Sample.up ∧
    Reaches Sample.filled (resolve Sample.up "out/a") Sample.through Sample.behind ∧
    (Sample.behind ≠ Sample.up ∧ ¬ IsStrictlyBelow Sample.up Sample.behind) ∧
    (uploadPath Sample.filled ["srv"] "up" "out/a" = none ↔
      Sample.through = resolve Sample.up "out/a" ∨
        ¬ IsStrictlyBelow Sample.up (resolve Sample.up "out/a")) ∧
    (uploadPath Sample.filled ["srv"] "up" "out/a" =
        uploadPath Sample.emptied ["srv"] "up" "out/a" ↔
      ¬ IsStrictlyBelow Sample.up (resolve Sample.up "out/a")) := by
  have hdir : IsPath ["srv"] := by decide
  have hbase : IsBase Sample.filled ["srv"] "up" Sample.up := Or.inl (by decide)
  have hother : IsBase Sample.emptied ["srv"] "up" Sample.up := Or.inl (by decide)
  have hout : Sample.behind ≠ Sample.up ∧ ¬ IsStrictlyBelow Sample.up Sample.behind :=
    ⟨by decide, Sample.not_isStrictlyBelow_away _⟩
  obtain ⟨hrefused, htold⟩ :=
    outside_refused_iff _ _ _ _ _ _ _ hdir hbase Sample.reaches_of_filled hout
  exact ⟨hdir, hbase, Sample.reaches_of_filled, hout, hrefused,
    htold _ _ _ hother Sample.reaches_of_emptied (by decide) (by decide)⟩

end SlackCourier.File
