import PathJail.Host.Call
import PathJail.Log.Event
import PathJail.Text.Lossy

/-!
# Open directories

Opening a directory makes a record of what its reads have still to give: the host's results in
order, and then the names of the aliases that live in the directory. A host entry with the name of
such an alias is passed over, and the alias is listed in its place, once. An entry whose name is no
text is passed over by the host. Both leave a trace in the log.

The records stand in slots. A slot whose record was removed is used again, so a handle carries, next
to its slot, the number of the opening that it came from; no two openings share a number, and a
handle of a closed directory never reaches a later one.

* `OpenDir.next`, `OpenDir.drain` — the next entry, or all that are left.
* `OpenDirs.insert`, `get?`, `remove` — the table of records.
-/

namespace PathJail

/-- An entry of a directory as the client sees it. -/
structure DirEntry where
  name : Text
  /-- The type that the host gave; an alias has none. -/
  fileType : Option FileType
  /-- Whether the entry stands for an alias. -/
  aliased : Bool
  deriving DecidableEq, Repr

/-- An entry of the host as the client sees it. -/
def HostEntry.visible (entry : HostEntry) : DirEntry := ⟨entry.name, entry.fileType, false⟩

/-! ## One directory -/

structure OpenDir where
  /-- The number of the opening. -/
  generation : Nat
  /-- The real path that was opened. -/
  path : Text
  /-- The host's results that have not been read. -/
  pending : Listing
  /-- The names of aliases in this directory that have not been listed, in ascending order. -/
  aliases : List Text

namespace OpenDir

/-- What a read of a directory gives, with the events it left in the log. -/
structure Step (α : Type) where
  events : List Event
  result : Except HostError α
  rest : OpenDir

/-- Whether an alias hides a host entry of this name. -/
def hides (dir : OpenDir) (name : Text) : Bool := dir.aliases.contains name

/-- The next entry to be seen, or nothing at the end. -/
def next (dir : OpenDir) : Step (Option DirEntry) :=
  go dir.pending
where
  go : Listing → Step (Option DirEntry)
    | .read (.error failure) :: rest => ⟨[], .error failure, { dir with pending := rest }⟩
    | .read (.ok entry) :: rest =>
      if dir.hides entry.name then
        let step := go rest
        { step with events := .entryHidden dir.path entry.name :: step.events }
      else ⟨[], .ok (some entry.visible), { dir with pending := rest }⟩
    | .unnamed raw :: rest =>
      let step := go rest
      { step with events := .unreadableName (Text.lossy raw) :: step.events }
    | [] =>
      match dir.aliases with
      | [] => ⟨[], .ok none, { dir with pending := [] }⟩
      | name :: names =>
        ⟨[], .ok (some ⟨name, none, true⟩), { dir with pending := [], aliases := names }⟩

/-- How much of a directory there is still to go through. -/
def size (dir : OpenDir) : Nat := dir.pending.length + dir.aliases.length

theorem size_next {dir : OpenDir} {entry : DirEntry} (h : dir.next.result = .ok (some entry)) :
    dir.next.rest.size < dir.size := by
  have key : ∀ pending : Listing, (next.go dir pending).result = .ok (some entry) →
      (next.go dir pending).rest.size < pending.length + dir.aliases.length := by
    intro pending
    induction pending with
    | nil =>
      intro h
      rw [next.go] at h ⊢
      split at h
      · simp at h
      · rename_i name names hnames
        simp [size, hnames]
    | cons item rest ih =>
      intro h
      cases item with
      | unnamed raw =>
        have := ih h
        simp only [next.go, List.length_cons]
        omega
      | read result =>
        cases result with
        | error failure => simp [next.go] at h
        | ok hostEntry =>
          rw [next.go] at h ⊢
          split at h
          · rename_i hhidden
            have := ih h
            simp only [hhidden, if_true, List.length_cons]
            omega
          · rename_i hshown
            simp [hshown, size]
  exact key dir.pending h

/-- All entries that are left, up to the first failure. -/
def drain (dir : OpenDir) : Step (List DirEntry) :=
  match _h : dir.next.result with
  | .error failure => ⟨dir.next.events, .error failure, dir.next.rest⟩
  | .ok none => ⟨dir.next.events, .ok [], dir.next.rest⟩
  | .ok (some entry) =>
    let step := drain dir.next.rest
    ⟨dir.next.events ++ step.events, step.result.map (entry :: ·), step.rest⟩
termination_by dir.size
decreasing_by exact size_next _h

end OpenDir

/-! ## All open directories -/

/-- What a client holds of an open directory. -/
structure DirHandle where
  slot : Nat
  generation : Nat
  deriving DecidableEq, Repr

structure OpenDirs where
  /-- The slots in use, with their records. -/
  records : List (Nat × OpenDir) := []
  /-- How many directories were ever opened. -/
  opened : Nat := 0

namespace OpenDirs

/-- The number of open directories. -/
def size (dirs : OpenDirs) : Nat := dirs.records.length

/-- Whether a slot holds no record. -/
def isVacant (dirs : OpenDirs) (slot : Nat) : Bool := (dirs.records.lookup slot).isNone

/-- The lowest vacant slot. Of one slot more than there are records, one is vacant. -/
def vacantSlot (dirs : OpenDirs) : Nat :=
  ((List.range (dirs.size + 1)).find? dirs.isVacant).getD dirs.size

/-- Opens a record in a given slot. -/
def insertAt (dirs : OpenDirs) (slot : Nat) (path : Text) (listing : Listing)
    (aliases : List Text) : DirHandle × OpenDirs :=
  let generation := dirs.opened + 1
  (⟨slot, generation⟩,
    { records := (slot, ⟨generation, path, listing, aliases⟩) :: dirs.records
      opened := generation })

/-- Opens a record in a vacant slot. -/
def insert (dirs : OpenDirs) (path : Text) (listing : Listing) (aliases : List Text) :
    DirHandle × OpenDirs :=
  dirs.insertAt dirs.vacantSlot path listing aliases

/-- The record of a handle, if it is still the one that the handle was given for. -/
def get? (dirs : OpenDirs) (handle : DirHandle) : Option OpenDir :=
  (dirs.records.lookup handle.slot).filter fun dir => dir.generation = handle.generation

/-- Puts another record into an occupied slot. -/
def set (dirs : OpenDirs) (slot : Nat) (dir : OpenDir) : OpenDirs :=
  { dirs with records := dirs.records.map fun record =>
      if record.1 = slot then (slot, dir) else record }

/-- Empties a slot. -/
def erase (dirs : OpenDirs) (slot : Nat) : OpenDirs :=
  { dirs with records := dirs.records.filter fun record => record.1 ≠ slot }

/-- Takes the record of a handle out of the table. -/
def remove (dirs : OpenDirs) (handle : DirHandle) : Option (OpenDir × OpenDirs) :=
  (dirs.get? handle).map fun dir => (dir, dirs.erase handle.slot)

/-- Closes every directory. The openings are still counted from where they were. -/
def clear (dirs : OpenDirs) : OpenDirs := { dirs with records := [] }

end OpenDirs

end PathJail
