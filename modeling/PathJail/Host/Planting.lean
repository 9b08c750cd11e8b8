import PathJail.Host.Tree

/-!
# Planting a tree

A file tree is made by a process that makes one item after another, each at a path and with the
directories above it. Its paths are walked like any other: a link on the way is followed, a file is
written through a link, and what is there already can be in the way.

* `Tree.Item`            — what is to be made, and at which path.
* `Tree.makeDirectories` — a directory and the directories above it.
* `Tree.writeFile`       — a file with its contents, its mode and its time.
* `Tree.grow`            — makes items in order, unless one fails.
-/

namespace PathJail.Tree

/-! ## Single entries -/

/-- The place of a new entry. Its name must not be taken, not even by a link. -/
def vacancy (tree : Tree) (path : Text) : Except HostError Place := do
  checkPath path
  match (Path.segments path).reverse.dropWhile (· = []) with
  | [] => throw (.code Errno.fileExists)
  | name :: above =>
    let here ← walkFrom tree .target maxLinks [] (above.reverse ++ [['.']])
    if name = ['.'] ∨ name = ['.', '.'] then throw (.code Errno.fileExists)
    if maxName < Text.byteLength name then throw (.code Errno.nameTooLong)
    if (tree.at? (here ++ [name])).isSome then throw (.code Errno.fileExists)
    return here ++ [name]

/-- The tree with an empty directory more. -/
def makeDirectory (tree : Tree) (path : Text) : Except HostError Tree :=
  tree.plant .empty <$> tree.vacancy path

/-- The tree with a link more. A slash behind its path would ask for a directory. -/
def makeLink (tree : Tree) (path target : Text) : Except HostError Tree := do
  checkPath target
  let place ← tree.vacancy path
  if path.getLast? = some '/' then throw (.code Errno.noEntry)
  return tree.plant (.link target) place

/-- The tree with a file, new or written over. Of the mode only the permissions count. The file
is opened anew after it got its mode, for reading, so that its time can be set, and the mode has to
allow that. -/
def writeFile (tree : Tree) (path text : Text) (mode : Nat) (modified : Int) :
    Except HostError Tree := do
  let place ← tree.walk [] .file path
  match tree.at? place with
  | some (.directory _) => throw (.code Errno.isDirectory)
  | some (.file _ old _) => if !mayWrite old then throw (.code Errno.accessDenied)
  | _ => pure ()
  if !mayRead mode then throw (.code Errno.accessDenied)
  return tree.plant (.file text (mode % 0o10000) modified) place

/-! ## Directories -/

/-- Whether a path leads to a directory. -/
def hasDirectory (tree : Tree) (path : Text) : Bool :=
  match tree.walk [] .target path with
  | .ok place => (tree.at? place).any isDirectory
  | .error _ => false

/-- What an attempt to make a directory comes to: a directory that is there already will do. -/
def settle (tree : Tree) (path : Text) (made : Except HostError Tree) : Except HostError Tree :=
  match made with
  | .ok grown => .ok grown
  | .error failure => if tree.hasDirectory path then .ok tree else .error failure

/-- The path from the root along names, of which the last comes first. -/
def pathOf (names : List Text) : Text :=
  if names = [] then ['/'] else names.reverse.flatMap fun name => '/' :: name

/-- Makes the directory of a path; where one above it is missing, that is made before. `above` are
the names of the directories above, the nearest first. -/
def makeDirectoriesAt (tree : Tree) (path : Text) : (above : List Text) → Except HostError Tree
  | [] => tree.settle path (tree.makeDirectory path)
  | name :: above =>
    let made := tree.makeDirectory path
    match made with
    | .error (.code number) =>
      if number = Errno.noEntry then do
        let grown ← makeDirectoriesAt tree (pathOf (name :: above)) above
        grown.settle path (grown.makeDirectory path)
      else tree.settle path made
    | _ => tree.settle path made

/-- The names of the directories above a path, the nearest first. -/
def above (path : Text) : List Text :=
  ((Path.segments path).filter fun name => name ≠ [] ∧ name ≠ ['.']).reverse.drop 1

/-- Makes the directory of a path and the missing directories above it. -/
def makeDirectories (tree : Tree) (path : Text) : Except HostError Tree :=
  tree.makeDirectoriesAt path (above path)

/-! ## Items -/

/-- What an item is. -/
inductive Item.Kind
  | directory
  | link (target : Text)
  | file (text : Text) (mode : Nat) (modified : Int)

/-- Something to be made at an absolute path. -/
structure Item where
  path : Text
  kind : Item.Kind

/-- The tree with an item, and with the directories above it. -/
def add (tree : Tree) (item : Item) : Except HostError Tree := do
  let parent := above item.path
  let tree ← tree.makeDirectoriesAt (pathOf parent) (parent.drop 1)
  match item.kind with
  | .directory => tree.makeDirectories item.path
  | .link target => tree.makeLink item.path target
  | .file text mode modified => tree.writeFile item.path text mode modified

/-- The tree with items, made in order. -/
def grow (tree : Tree) (items : List Item) : Except HostError Tree := items.foldlM add tree

end PathJail.Tree
