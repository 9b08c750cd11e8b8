import PathJail.Dialogue
import PathJail.Path.Basic

/-!
# File trees

A host that interprets paths the way a Unix kernel does, over a tree of directories, files and
symbolic links that is given as a value. A path is walked name by name from the root or from the
working directory; links on the way are followed, a fixed number at most, and `..` stays at the
root. To the host the tree can only be read; what moves is the working directory.

* `Tree.plant`  — the tree with another node at a place.
* `Tree.walk`   — the place that a path leads to.
* `Tree.toHost` — the tree as a host, whose state is the process's working directory.
-/

namespace PathJail

inductive Tree
  | file (text : Text) (mode : Nat) (modified : Int)
  | link (target : Text)
  | directory (entries : List (Text × Tree))

/-- A place in a tree: the names on the way from the root. -/
abbrev Place := List Text

namespace Tree

/-- The tree without files. -/
def empty : Tree := .directory []

/-! ## Nodes -/

def entries : Tree → List (Text × Tree)
  | .directory entries => entries
  | _ => []

def isDirectory : Tree → Bool
  | .directory _ => true
  | _ => false

def fileType : Tree → FileType
  | .file _ _ _ => .file
  | .link _ => .symlink
  | .directory _ => .directory

/-- What a host tells of a node. The super-user owns everything. -/
def metadata : Tree → Metadata
  | .file text mode modified => ⟨.file, Text.byteLength text, mode, 0, 0, modified, modified⟩
  | .link target => ⟨.symlink, Text.byteLength target, 0o777, 0, 0, 0, 0⟩
  | .directory _ => ⟨.directory, 4096, 0o755, 0, 0, 0, 0⟩

/-- Whether a file's mode lets its owner read. -/
def mayRead (mode : Nat) : Bool := mode.testBit 8

/-- Whether a file's mode lets its owner write. -/
def mayWrite (mode : Nat) : Bool := mode.testBit 7

/-- The node at a place. -/
def at? (tree : Tree) : Place → Option Tree
  | [] => some tree
  | name :: names => (tree.entries.lookup name).bind fun child => child.at? names

/-! ## Building -/

/-- The entries with another node under a name; a new name comes last. -/
def setEntry (entries : List (Text × Tree)) (name : Text) (node : Tree) : List (Text × Tree) :=
  if entries.any fun entry => entry.1 = name then
    entries.map fun entry => if entry.1 = name then (name, node) else entry
  else entries ++ [(name, node)]

/-- The tree with a node at a place, and directories on the way to it. A directory that is there
already is kept. -/
def plant (tree : Tree) (node : Tree) : Place → Tree
  | [] => if tree.isDirectory && node.isDirectory then tree else node
  | name :: names =>
    let child := (tree.entries.lookup name).getD .empty
    .directory (setEntry tree.entries name (child.plant node names))

/-- The names of a path, without what is empty. -/
def place (path : Text) : Place := (Path.segments path).filter fun name => name ≠ []

/-- The directories that every Unix system has. -/
def standard : Tree :=
  ["bin", "dev", "etc", "home", "lib", "media", "mnt", "opt", "proc", "root", "run", "sbin",
    "srv", "sys", "tmp", "usr/bin", "usr/include", "usr/lib", "usr/local/bin", "usr/sbin",
    "usr/share", "var/cache", "var/lib", "var/log", "var/tmp"].foldl
    (fun tree path => tree.plant .empty (place path.toList)) .empty

end Tree

/-! ## Walking -/

/-- What a walk along a path looks for. -/
inductive Goal
  /-- The entry that the last name stands for, even if it is a link. -/
  | entry
  /-- What the path leads to. -/
  | target
  /-- What the path leads to, or the place where a file would be if there was one. -/
  | file
  deriving DecidableEq, Repr

namespace Tree

/-- Links that a walk follows before it gives up. -/
def maxLinks : Nat := 40

/-- The longest name of a file, in bytes. -/
def maxName : Nat := 255

/-- The length in bytes that no path may have. -/
def maxPath : Nat := 4096

/-- Walks on from `here` along the names of `todo`, of which empty ones and `.` only ask for a
directory. `left` links may be followed. -/
def walkFrom (tree : Tree) (goal : Goal) (left : Nat) (here : Place) :
    List Text → Except HostError Place
  | [] => .ok here
  | name :: todo =>
    match tree.at? here with
    | none => .error (.code Errno.noEntry)
    | some node =>
      if !node.isDirectory then .error (.code Errno.notDirectory)
      else if name = [] ∨ name = ['.'] then walkFrom tree goal left here todo
      else if name = ['.', '.'] then walkFrom tree goal left here.dropLast todo
      else if maxName < Text.byteLength name then .error (.code Errno.nameTooLong)
      else if goal = .file ∧ todo ≠ [] ∧ todo.all (· = []) then .error (.code Errno.isDirectory)
      else match node.entries.lookup name with
        | none =>
          if goal = .file ∧ todo = [] then .ok (here ++ [name]) else .error (.code Errno.noEntry)
        | some (.link target) =>
          if goal = .entry ∧ todo = [] then .ok (here ++ [name])
          else match left with
            | 0 => .error (.code Errno.tooManyLinks)
            | left + 1 =>
              let start := if Path.isAbsolute target then [] else here
              walkFrom tree goal left start (Path.segments target ++ todo)
        | some _ => walkFrom tree goal left (here ++ [name]) todo
termination_by todo => (left, todo.length)

/-- Whether a text can be given to the system as a path. -/
def checkPath (path : Text) : Except HostError Unit :=
  if '\x00' ∈ path then .error .nulInName
  else if path = [] then .error (.code Errno.noEntry)
  else if maxPath ≤ Text.byteLength path then .error (.code Errno.nameTooLong)
  else .ok ()

/-- Where the walk along a path begins. -/
def startOf (cwd : Place) (path : Text) : Place := if Path.isAbsolute path then [] else cwd

/-- The place that a path leads to. -/
def walk (tree : Tree) (cwd : Place) (goal : Goal) (path : Text) : Except HostError Place := do
  checkPath path
  walkFrom tree goal maxLinks (startOf cwd path) (Path.segments path)

end Tree

/-! ## The process -/

/-- Where a process stands in a tree. It owns all files and has no other privileges, so a file's
mode says what it may do with it, and the root of the tree is its root. -/
structure TreeHost where
  cwd : Place := []
  deriving DecidableEq, Repr

namespace TreeHost

/-- The node that a path leads to. -/
def node (tree : Tree) (process : TreeHost) (goal : Goal) (path : Text) :
    Except HostError Tree := do
  match tree.at? (← tree.walk process.cwd goal path) with
  | some node => return node
  | none => throw (.code Errno.noEntry)

/-- The place of a directory. -/
def directory (tree : Tree) (process : TreeHost) (path : Text) : Except HostError Place := do
  if (← node tree process .target path).isDirectory then tree.walk process.cwd .target path
  else throw (.code Errno.notDirectory)

/-- The contents of a file. -/
def contents (tree : Tree) (process : TreeHost) (path : Text) : Except HostError Text := do
  match ← node tree process .target path with
  | .file text mode _ => if Tree.mayRead mode then return text else throw (.code Errno.accessDenied)
  | _ => throw (.code Errno.isDirectory)

def readLink (tree : Tree) (process : TreeHost) (path : Text) : Except HostError LinkTarget := do
  match ← node tree process .entry path with
  | .link target => return .text target
  | _ => throw (.code Errno.invalid)

def openDir (tree : Tree) (process : TreeHost) (path : Text) : Except HostError Listing := do
  let place ← directory tree process path
  let entries := ((tree.at? place).map Tree.entries).getD []
  return entries.map fun entry => .read (.ok ⟨entry.1, some entry.2.fileType⟩)

/-- An answer that leaves the process where it is. -/
def stay {α : Type} (process : TreeHost) (answer : Except HostError α) :
    Except HostError α × TreeHost :=
  (answer, process)

/-- The answer to a call for another working directory. -/
def changeDir (tree : Tree) (process : TreeHost) (path : Text) :
    Except HostError Unit × TreeHost :=
  match directory tree process path with
  | .ok place => (.ok (), ⟨place⟩)
  | .error failure => (.error failure, process)

/-- The answer to a call for another root: there is none without the privilege. -/
def changeRoot (tree : Tree) (process : TreeHost) (path : Text) : Except HostError Unit :=
  match directory tree process path with
  | .ok _ => .error (.code Errno.notPermitted)
  | .error failure => .error failure

/-- The answer to a call, and where the process stands after it. -/
def answer (tree : Tree) (call : Call) (process : TreeHost) :
    Except HostError call.Reply × TreeHost :=
  match call with
  | .stat path => process.stay (Tree.metadata <$> node tree process .target path)
  | .lstat path => process.stay (Tree.metadata <$> node tree process .entry path)
  | .readLink path => process.stay (readLink tree process path)
  | .openDir path => process.stay (openDir tree process path)
  | .openFile path => process.stay ((fun _ => ()) <$> node tree process .target path)
  | .chdir path => changeDir tree process path
  | .chroot path => process.stay (changeRoot tree process path)
  | .link _ _ | .rename _ _ | .symlink _ _ | .truncate _ _ | .chmod _ _ | .mkdir _ _
  | .chown _ _ _ | .lchown _ _ _ | .utimes _ _ _ | .rmdir _ | .unlink _ =>
    process.stay (.error (.code Errno.readOnly))

end TreeHost

/-- The tree as a host without an interrupt. -/
def Tree.toHost (tree : Tree) : Host TreeHost where
  answer := TreeHost.answer tree
  raised _ := false

end PathJail
