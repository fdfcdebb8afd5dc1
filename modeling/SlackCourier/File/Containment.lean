import SlackCourier.File.Tree

/-!
# Files inside a root directory

A requested path is resolved against a root directory, links followed, and refused when it would
leave the root.  A root or a file that does not resolve is taken lexically.
-/

namespace SlackCourier.File

/-- The canonical form of a root directory, its lexical form if it does not resolve. -/
def rootPath (tree : Tree) (directory : Path) (root : Text) : Path :=
  match tree.canonicalOf directory root with
  | .ok path => path
  | .error _ => resolve directory root

/-- The canonical form of an absolute path, the path itself if it does not resolve. -/
def targetPath (tree : Tree) (path : Path) : Path :=
  match tree.canonical path with
  | .ok target => target
  | .error _ => path

/-- Whether a way from a directory, as a text, fails to lead below it: the way is empty, begins by
going up, or begins at the root. -/
def leadsOut (way : Text) : Bool :=
  way == "" || way == ".." || way.startsWith "../" || isAbsolute way

/-- Whether a path lies strictly below a base, by the text of the way there. -/
def isBelow (base target : Path) : Bool := !leadsOut (relative (render base) (render target))

/-- The path of a requested file inside a root directory, `none` when it would lie outside. -/
def uploadPath (tree : Tree) (directory : Path) (root requested : Text) : Option Path :=
  let base := rootPath tree directory root
  let target := targetPath tree (resolve base requested)
  if isBelow base target then some target else none

end SlackCourier.File
