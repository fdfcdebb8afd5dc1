import SlackCourier.File.Tree
import SlackCourier.Proofs.File.Names

/-!
# Walks in a file tree

A walk as a derivation, one rule for each kind of name, beside the function that walks.  Two facts
about walks carry everything said about containment.  A walk that starts on a path no link can
redirect ends on one, so the end of a walk from the root is canonical and walking it again stays
there.  And a walk in a tree from which files have disappeared is a walk in the whole tree, so
files that disappear can break a path but never lead it elsewhere.
-/

namespace SlackCourier.File

namespace Tree

/-- What is taken for a name on a walk, apart from the two that move within the path. -/
def Follows (name : Text) : Prop :=
  name ≠ "." ∧ name ≠ ".." ∧ ¬ maxNameBytes < (Text.encodeUtf8 name).length

/-- A walk along names from a directory that ends at a path and follows at most so many links. -/
inductive Walks (tree : Tree) : Nat → Path → List Text → Path → Prop
  | done (links : Nat) (here : Path) : Walks tree links here [] here
  | stay {links : Nat} {here last : Path} {rest : List Text} :
      tree.node? here = some .directory → Walks tree links here rest last →
      Walks tree links here (("." : Text) :: rest) last
  | climb {links : Nat} {here last : Path} {rest : List Text} :
      tree.node? here = some .directory → Walks tree links here.dropLast rest last →
      Walks tree links here ((".." : Text) :: rest) last
  | follow {links : Nat} {here last : Path} {name : Text} {rest : List Text} {target : Text} :
      tree.node? here = some .directory → Follows name →
      tree.node? (here ++ [name]) = some (.link target) →
      Walks tree links (origin here target) (segments target ++ rest) last →
      Walks tree (links + 1) here (name :: rest) last
  | enter {links : Nat} {here last : Path} {name : Text} {rest : List Text} {node : Node} :
      tree.node? here = some .directory → Follows name →
      tree.node? (here ++ [name]) = some node → (∀ target, node ≠ .link target) →
      Walks tree links (here ++ [name]) rest last →
      Walks tree links here (name :: rest) last

/-- The walk with one link fewer, if there is one left. -/
def follower (tree : Tree) : Nat → Path → List Text → Except AccessError Path
  | 0 => fun _ _ => .error .tooManyLinks
  | links + 1 => tree.walk links

theorem walk_eq_walkNames (tree : Tree) (links : Nat) (here : Path) (names : List Text) :
    tree.walk links here names = tree.walkNames (tree.follower links) here names := by
  cases links <;> rfl

theorem Walks.walk_eq {tree : Tree} {links : Nat} {here last : Path} {names : List Text}
    (h : Walks tree links here names last) : tree.walk links here names = .ok last := by
  induction h with
  | done links here => exact walk_nil tree links here
  | stay hdir _ ih =>
    rw [walk_eq_walkNames] at ih ⊢
    simp [walkNames, hdir, ih]
  | climb hdir _ ih =>
    rw [walk_eq_walkNames] at ih ⊢
    simp [walkNames, hdir, ih]
  | follow hdir hname hlink _ ih =>
    rw [walk_eq_walkNames, walkNames]
    simp only [hdir, ne_eq, not_true, if_false, hname.1, hname.2.1, hname.2.2, hlink]
    exact ih
  | @enter links here last name rest node hdir hname hnode hkind _ ih =>
    rw [walk_eq_walkNames] at ih ⊢
    rw [walkNames]
    simp only [hdir, ne_eq, not_true, if_false, hname.1, hname.2.1, hname.2.2, hnode]
    cases node with
    | link target => exact absurd rfl (hkind target)
    | file content => exact ih
    | directory => exact ih

theorem walks_of_walkNames {tree : Tree} {links : Nat} {here last : Path} {names : List Text}
    (hfollow : ∀ {here last names}, tree.follower links here names = .ok last →
      ∃ left, links = left + 1 ∧ Walks tree left here names last)
    (h : tree.walkNames (tree.follower links) here names = .ok last) :
    Walks tree links here names last := by
  induction names generalizing here with
  | nil =>
    rw [walkNames, Except.ok.injEq] at h
    exact h ▸ .done links here
  | cons name rest ih =>
    rw [walkNames] at h
    split_ifs at h with hdir hdot hdots hlong
    · have hdir := Classical.not_not.1 hdir
      subst hdot
      exact .stay hdir (ih h)
    · have hdir := Classical.not_not.1 hdir
      subst hdots
      exact .climb hdir (ih h)
    · have hdir := Classical.not_not.1 hdir
      have hname : Follows name := ⟨hdot, hdots, hlong⟩
      cases hnode : tree.node? (here ++ [name]) with
      | none => simp [hnode] at h
      | some node =>
        rw [hnode] at h
        cases node with
        | link target =>
          obtain ⟨left, rfl, hw⟩ := hfollow h
          exact .follow hdir hname hnode hw
        | file content => exact .enter hdir hname hnode (by simp) (ih h)
        | directory => exact .enter hdir hname hnode (by simp) (ih h)

theorem walks_of_walk {tree : Tree} {links : Nat} {here last : Path} {names : List Text}
    (h : tree.walk links here names = .ok last) : Walks tree links here names last := by
  -- The names in the target of a link may be many, so the induction is on the links left.
  induction links generalizing here names last with
  | zero =>
    rw [walk_eq_walkNames] at h
    exact walks_of_walkNames (fun hf => by cases hf) h
  | succ links ih =>
    rw [walk_eq_walkNames] at h
    exact walks_of_walkNames (fun hf => ⟨links, rfl, ih hf⟩) h

theorem walk_eq_ok_iff {tree : Tree} {links : Nat} {here last : Path} {names : List Text} :
    tree.walk links here names = .ok last ↔ Walks tree links here names last :=
  ⟨walks_of_walk, Walks.walk_eq⟩

/-- Whether everything in the first tree stands at the same place in the second. -/
def Within (less more : Tree) : Prop :=
  ∀ {path : Path} {node : Node}, less.node? path = some node → more.node? path = some node

theorem Within.refl (tree : Tree) : Within tree tree := fun h => h

theorem Within.trans {a b c : Tree} (hab : Within a b) (hbc : Within b c) : Within a c :=
  fun h => hbc (hab h)

theorem Within.walks {less more : Tree} (h : Within less more) {links : Nat} {here last : Path}
    {names : List Text} (hw : Walks less links here names last) :
    Walks more links here names last := by
  induction hw with
  | done links here => exact .done links here
  | stay hdir _ ih => exact .stay (h hdir) ih
  | climb hdir _ ih => exact .climb (h hdir) ih
  | follow hdir hname hlink _ ih => exact .follow (h hdir) hname (h hlink) ih
  | enter hdir hname hnode hkind _ ih => exact .enter (h hdir) hname (h hnode) hkind ih

theorem lookup_filter_ne (nodes : List (Path × Node)) (gone path : Path) :
    (nodes.filter (·.1 != gone)).lookup path =
      if path = gone then none else nodes.lookup path := by
  induction nodes with
  | nil => simp
  | cons entry rest ih =>
    obtain ⟨place, node⟩ := entry
    by_cases hgone : place = gone
    · subst hgone
      rw [List.filter_cons_of_neg (by simp), ih]
      by_cases hpath : path = place
      · simp [hpath]
      · have hne : (path == place) = false := by simpa using hpath
        simp [hpath, List.lookup_cons, hne]
    · rw [List.filter_cons_of_pos (by simpa using hgone), List.lookup_cons, List.lookup_cons]
      cases hpath : path == place with
      | false => exact ih
      | true =>
        rw [beq_iff_eq] at hpath
        simp [hpath, hgone]

theorem within_remove (tree : Tree) (directory : Path) (text : Text) :
    Within (tree.remove directory text) tree := by
  intro path node h
  unfold remove at h
  dsimp only at h
  split at h
  · split at h
    · exact h
    · unfold node? at h ⊢
      split_ifs at h ⊢ with hroot
      · exact h
      · rw [lookup_filter_ne] at h
        split_ifs at h
        exact h
  · exact h

theorem within_removeAll (tree : Tree) (directory : Path) (texts : List Text) :
    Within (texts.foldl (·.remove directory ·) tree) tree := by
  induction texts generalizing tree with
  | nil => exact Within.refl tree
  | cons text rest ih => exact Within.trans (ih _) (within_remove tree directory text)

theorem locate_eq_ok_iff {tree : Tree} {directory path : Path} {text : Text} :
    tree.locate directory text = .ok path ↔
      text.units.contains 0 = false ∧ ¬ maxPathBytes < (Text.encodeUtf8 text).length ∧ text ≠ "" ∧
        Walks tree maxLinks (origin directory text) (segments text) path := by
  unfold locate canonicalOf
  rw [← walk_eq_ok_iff]
  split_ifs <;> simp_all

theorem read_eq_ok_iff {tree : Tree} {directory : Path} {text : Text} {content : Text.Bytes} :
    tree.read directory text = .ok content ↔
      ∃ path, tree.locate directory text = .ok path ∧
        tree.node? path = some (.file content) := by
  unfold read
  cases tree.locate directory text with
  | error e => simp [bind, Except.bind]
  | ok path =>
    simp only [bind, Except.bind, Except.ok.injEq, exists_eq_left']
    cases hnode : tree.node? path with
    | none => simp [throw, throwThe, MonadExceptOf.throw]
    | some node => cases node <;> simp [throw, throwThe, MonadExceptOf.throw, pure, Except.pure]

theorem Within.read {less more : Tree} (h : Within less more) {directory : Path} {text : Text}
    {content : Text.Bytes} (hread : less.read directory text = .ok content) :
    more.read directory text = .ok content := by
  obtain ⟨path, hlocate, hnode⟩ := read_eq_ok_iff.1 hread
  obtain ⟨hzero, hlong, hempty, hwalks⟩ := locate_eq_ok_iff.1 hlocate
  apply read_eq_ok_iff.2
  exact ⟨path, locate_eq_ok_iff.2 ⟨hzero, hlong, hempty, h.walks hwalks⟩, h hnode⟩

theorem size_of_read {tree : Tree} {directory : Path} {text : Text}
    {content : Text.Bytes} (h : tree.read directory text = .ok content) :
    tree.size directory text = .ok content.length := by
  obtain ⟨path, hlocate, hnode⟩ := read_eq_ok_iff.1 h
  unfold size
  rw [hlocate]
  simp only [Bind.bind, Except.bind, hnode]
  rfl

/-- A path that no link can redirect: it leads through directories only, and is no link itself. -/
inductive Direct (tree : Tree) : Path → Prop
  | root : Direct tree []
  | enter {path : Path} {name : Text} {node : Node} :
      Direct tree path → tree.node? path = some .directory → Follows name → name.mended = name →
      tree.node? (path ++ [name]) = some node → (∀ target, node ≠ .link target) →
      Direct tree (path ++ [name])

theorem Direct.dropLast {tree : Tree} {path : Path} (h : Direct tree path) :
    Direct tree path.dropLast := by
  cases h with
  | root => exact .root
  | enter hpath => simpa using hpath

theorem Direct.origin {tree : Tree} {path : Path} (h : Direct tree path) (text : Text) :
    Direct tree (origin path text) := by
  unfold File.origin
  split_ifs
  · exact .root
  · exact h

theorem Walks.direct {tree : Tree} {links : Nat} {here last : Path} {names : List Text}
    (h : Walks tree links here names last) (hhere : Direct tree here)
    (hnames : ∀ name ∈ names, name.mended = name) : Direct tree last := by
  induction h with
  | done => exact hhere
  | stay _ _ ih => exact ih hhere fun n hn => hnames n (by simp [hn])
  | climb _ _ ih => exact ih hhere.dropLast fun n hn => hnames n (by simp [hn])
  | follow _ _ _ _ ih =>
    apply ih (hhere.origin _)
    intro n hn
    rcases List.mem_append.mp hn with hn | hn
    · exact mended_of_mem_segments n hn
    · exact hnames n (by simp [hn])
  | enter hdir hname hnode hkind _ ih =>
    have hmended := hnames _ (List.mem_cons_self ..)
    exact ih (.enter hhere hdir hname hmended hnode hkind) fun n hn => hnames n (by simp [hn])

theorem Direct.mended {tree : Tree} {path : Path} (h : Direct tree path) :
    ∀ name ∈ path, name.mended = name := by
  induction h with
  | root => simp
  | enter _ _ _ hmended _ _ ih =>
    intro n hn
    rcases List.mem_append.mp hn with hn | hn
    · exact ih n hn
    · rw [List.mem_singleton.mp hn]
      exact hmended

/-- Going on from a path that no link redirects is going on from the root along its names. -/
theorem Direct.walks_append {tree : Tree} {links : Nat} {path : Path} (h : Direct tree path)
    {rest : List Text} {last : Path} (hw : Walks tree links path rest last) :
    Walks tree links [] (path ++ rest) last := by
  induction h generalizing rest with
  | root => exact hw
  | @enter path name node _ hdir hname _ hnode hkind ih =>
    rw [List.append_assoc]
    exact ih (.enter hdir hname hnode hkind hw)

theorem Direct.canonical_eq {tree : Tree} {path : Path} (h : Direct tree path) :
    tree.canonical path = .ok path := by
  have hw := h.walks_append (.done maxLinks path)
  rw [List.append_nil] at hw
  unfold canonical
  rw [stored_eq_self h.mended]
  exact hw.walk_eq

theorem direct_of_canonical {tree : Tree} {path last : Path}
    (h : tree.canonical path = .ok last) : Direct tree last :=
  (walks_of_walk h).direct .root mended_of_mem_stored

theorem Walks.isPath {tree : Tree} {links : Nat} {here last : Path} {names : List Text}
    (h : Walks tree links here names last) (hhere : IsPath here)
    (hnames : ∀ name ∈ names, IsPiece name) : IsPath last := by
  induction h with
  | done => exact hhere
  | stay _ _ ih => exact ih hhere fun n hn => hnames n (by simp [hn])
  | climb _ _ ih => exact ih hhere.dropLast fun n hn => hnames n (by simp [hn])
  | follow _ _ _ _ ih =>
    apply ih (hhere.origin _)
    intro n hn
    rcases List.mem_append.mp hn with hn | hn
    · exact isPiece_of_mem_segments n hn
    · exact hnames n (by simp [hn])
  | enter _ hname _ _ _ ih =>
    have hpiece := hnames _ (List.mem_cons_self ..)
    exact ih (hhere.concat ⟨hpiece, hname.1, hname.2.1⟩) fun n hn => hnames n (by simp [hn])

theorem canonical_of_read_render {tree : Tree} {directory path : Path} {content : Text.Bytes}
    (hne : path ≠ []) (hpath : IsPath path)
    (h : tree.read directory (render path) = .ok content) :
    ∃ last, tree.canonical path = .ok last ∧ tree.node? last = some (.file content) := by
  obtain ⟨last, hlocate, hnode⟩ := read_eq_ok_iff.1 h
  have hw := (locate_eq_ok_iff.1 hlocate).2.2.2
  rw [origin_render, segments_render hne hpath.isPiece] at hw
  exact ⟨last, hw.walk_eq, hnode⟩

end Tree

end SlackCourier.File
