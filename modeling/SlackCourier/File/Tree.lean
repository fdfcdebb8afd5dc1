import SlackCourier.File.Path
import SlackCourier.Text.Utf8

/-!
# File trees

Directories, files and symbolic links, each at an absolute path.  Walking a list of names follows
every link it meets, the last one included; at most forty links are followed, so a walk ends in
every tree, whatever cycles its links form.
-/

namespace SlackCourier.File

/-- What stands at a path. -/
inductive Node where
  | file (content : Text.Bytes)
  | directory
  | link (target : Text)
  deriving DecidableEq, Repr

/-- The nodes of a file tree below its root, which is always a directory. -/
structure Tree where
  nodes : List (Path × Node)
  deriving DecidableEq, Repr

inductive AccessError where
  | missing
  | notDirectory
  | isDirectory
  | tooManyLinks
  | nameTooLong
  /-- The text of the path holds the character zero, which no path does. -/
  | zeroInPath
  deriving DecidableEq, Repr

namespace Tree

instance : Inhabited Tree := ⟨⟨[]⟩⟩

def node? (tree : Tree) (path : Path) : Option Node :=
  if path = [] then some .directory else tree.nodes.lookup path

def maxNameBytes : Nat := 255

/-- Walks names from a directory.  A link on the way is handed to `follow` with the path it stands
for and the names still to walk. -/
def walkNames (tree : Tree) (follow : Path → List Text → Except AccessError Path) :
    Path → List Text → Except AccessError Path
  | here, [] => .ok here
  | here, name :: rest =>
    if tree.node? here ≠ some .directory then .error .notDirectory
    else if name = "." then walkNames tree follow here rest
    else if name = ".." then walkNames tree follow here.dropLast rest
    else if maxNameBytes < (Text.encodeUtf8 name).length then .error .nameTooLong
    else match tree.node? (here ++ [name]) with
      | none => .error .missing
      | some (.link target) => follow (origin here target) (segments target ++ rest)
      | some _ => walkNames tree follow (here ++ [name]) rest

/-- Walks names from a directory, following at most so many links. -/
def walk (tree : Tree) : Nat → Path → List Text → Except AccessError Path
  | 0 => tree.walkNames fun _ _ => .error .tooManyLinks
  | links + 1 => tree.walkNames (tree.walk links)

/-- The number of links that are followed for one path. -/
def maxLinks : Nat := 40

def canonical (tree : Tree) (path : Path) : Except AccessError Path :=
  tree.walk maxLinks [] (stored path)

/-- The canonical path that a text denotes, seen from a directory.  The text is walked name by name
and may be of any length. -/
def canonicalOf (tree : Tree) (directory : Path) (text : Text) : Except AccessError Path :=
  if text = "" then .error .missing
  else tree.walk maxLinks (origin directory text) (segments text)

/-- The greatest number of bytes in the text of a path to a file that is used. -/
def maxPathBytes : Nat := 4095

/-- The canonical path of a file that is used, from its text. -/
def locate (tree : Tree) (directory : Path) (text : Text) : Except AccessError Path :=
  if text.units.contains 0 then .error .zeroInPath
  else if maxPathBytes < (Text.encodeUtf8 text).length then .error .nameTooLong
  else tree.canonicalOf directory text

def directorySize : Nat := 4096

def size (tree : Tree) (directory : Path) (text : Text) : Except AccessError Nat := do
  let path ← tree.locate directory text
  match tree.node? path with
  | some (.file content) => return content.length
  | some .directory => return directorySize
  | _ => throw .missing

def read (tree : Tree) (directory : Path) (text : Text) : Except AccessError Text.Bytes := do
  let path ← tree.locate directory text
  match tree.node? path with
  | some (.file content) => return content
  | some .directory => throw .isDirectory
  | _ => throw .missing

/-- The tree without the file or link that a text names; a link is removed, not what it leads to. -/
def remove (tree : Tree) (directory : Path) (text : Text) : Tree :=
  let all := segments text
  match all.getLast?, tree.walk maxLinks (origin directory text) all.dropLast with
  | some name, .ok parent =>
    match tree.node? (parent ++ [name]) with
    | some .directory => tree
    | _ => ⟨tree.nodes.filter (·.1 != parent ++ [name])⟩
  | _, _ => tree

/-- The tree with a node at a path, in place of what stood there. -/
def put (tree : Tree) (path : Path) (node : Node) : Tree :=
  ⟨tree.nodes.filter (·.1 != path) ++ [(path, node)]⟩

/-- A directory's path and the tree in which every name on the way to it exists, missing ones
created as directories. -/
def makeDirectories (tree : Tree) : Path → List Text → Tree × Path
  | here, [] => (tree, here)
  | here, name :: rest =>
    match tree.walk maxLinks here [name] with
    | .ok next => makeDirectories tree next rest
    | .error _ => makeDirectories (tree.put (here ++ [name]) .directory) (here ++ [name]) rest

/-- Where the content written at a path goes: a link there is followed, even to a file that does not
exist yet. -/
def destination (tree : Tree) : Nat → Path → Path
  | 0, path => path
  | links + 1, path =>
    match tree.node? path with
    | some (.link target) =>
      let way := segments target
      match way.getLast?, tree.walk maxLinks (origin path.dropLast target) way.dropLast with
      | some name, .ok parent => destination tree links (parent ++ [name])
      | _, _ => path
    | _ => path

/-- The tree with a node at the path that a text denotes lexically, seen from a directory; missing
directories on the way are created, a directory that is there already is left, and content goes
where a link leads. -/
def create (tree : Tree) (directory : Path) (text : Text) (node : Node) : Tree :=
  let path := stored (resolve directory text)
  let (tree, parent) := tree.makeDirectories [] path.dropLast
  match path.getLast?, node with
  | none, _ => tree
  | some name, .directory => (tree.makeDirectories parent [name]).1
  | some name, .file _ => tree.put (tree.destination maxLinks (parent ++ [name])) node
  | some name, .link _ => tree.put (parent ++ [name]) node

@[simp] theorem node?_nil (tree : Tree) : tree.node? [] = some .directory := rfl

@[simp] theorem walk_nil (tree : Tree) (links : Nat) (here : Path) :
    tree.walk links here [] = .ok here := by
  cases links <;> rfl

end Tree

end SlackCourier.File
