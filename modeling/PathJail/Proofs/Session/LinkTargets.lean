import PathJail.Proofs.Session.Containment
import PathJail.Proofs.Session.Lookups

/-!
# Where a symbolic link leads

The target of a symbolic link is text, and a session without aliases makes a path of it on the way
through several texts: the real path of the link, its directory, that directory seen from the base,
the target behind it, and a lookup. All of them come to one step of a walk inside a root.

* `rootText`, `EntryAt`       — the real path of an entry below the base.
* `followed`                  — the step: where a target leads from a directory inside a root.
* `parent_of_entryAt`         — the directory of an entry.
* `real_of_lookup_linkTarget` — what the session looks up for a target leads there.
-/

namespace PathJail

open PathJail.Path (Tidy Trimmed isAbsolute clean)
open Resolver (Beneath)

-- ---------------------------------------------------------------------------
-- Entries of directories
-- ---------------------------------------------------------------------------

namespace Path

/-- A path is parted at its last slash. -/
theorem splitLast_append_slash {name : Text} (h : '/' ∉ name) (p : Text) :
    splitLast (p ++ '/' :: name) = some (p, name) := by
  induction p with
  | nil => rw [List.nil_append, splitLast, splitLast_eq_none_iff.mpr h, if_pos rfl]
  | cons c p ih => rw [List.cons_append, splitLast, ih]

/-- The directory of an entry, given by its name. -/
theorem parent_append_slash {name : Text} (hName : name ≠ []) (hSlash : '/' ∉ name) (p : Text) :
    parent (p ++ '/' :: name) = some (if p = [] then ['/'] else p) := by
  have hLast : (p ++ '/' :: name).getLast? ≠ some '/' := by
    obtain ⟨front, c, rfl⟩ : ∃ front c, name = front ++ [c] :=
      ⟨_, _, (List.dropLast_concat_getLast hName).symm⟩
    rw [← List.cons_append, ← List.append_assoc, List.getLast?_concat]
    rintro hc
    obtain rfl := Option.some.inj hc
    exact hSlash (by simp)
  rw [parent, bare_of_getLast? hLast, splitLast_append_slash hSlash]
  cases p <;> rfl

/-- A slash at the end does not matter to the directory of a path. -/
theorem parent_concat_slash (p : Text) : parent (p ++ ['/']) = parent p := by
  rw [parent, parent, bare_append_slash]

end Path

/-- What stands in front of the paths below a base: the base, and nothing for the root. -/
def rootText (base : Text) : Text := if base = ['/'] then [] else base

/-- The real path of the entry `name` in the directory `dir` below a base, with a slash behind it or
without one. -/
structure EntryAt (base dir name real : Text) : Prop where
  nonempty : name ≠ []
  no_slash : '/' ∉ name
  real : real = rootText base ++ dir ++ '/' :: name ∨
    real = rootText base ++ dir ++ '/' :: name ++ ['/']

/-- The directory of an entry below the base. -/
theorem parent_of_entryAt {base dir name real : Text} (h : EntryAt base dir name real) :
    Path.parent real =
      some (if rootText base ++ dir = [] then ['/'] else rootText base ++ dir) := by
  rcases h.real with rfl | rfl
  · exact Path.parent_append_slash h.nonempty h.no_slash _
  · rw [Path.parent_concat_slash]
    exact Path.parent_append_slash h.nonempty h.no_slash _

/-- Where a target leads from the directory `dir` inside a root: a relative one is taken from `dir`,
an absolute one from the root, unless it begins with the root already. Nothing climbs above it. -/
def followed (base dir target : Text) : Text :=
  if isAbsolute target then
    if base = ['/'] ∨ base ++ ['/'] <+: clean target then clean target
    else rootText base ++ clean target
  else rootText base ++ clean (dir ++ '/' :: target)

-- ---------------------------------------------------------------------------
-- The base
-- ---------------------------------------------------------------------------

namespace Resolver

variable {r : Resolver} {base : Text} {names : List Text}

/-- The base with a slash, in both forms that a base can have. -/
theorem baseRoot_eq (hBase : r.base = some base) (h : Trimmed base) :
    r.baseRoot = rootText base ++ ['/'] := by
  rw [baseRoot, baseText_eq hBase, rootText]
  rcases h.no_slash with rfl | hLast
  · rfl
  · have hRoot : base ≠ ['/'] := by
      rintro rfl
      exact hLast rfl
    rw [if_neg hLast, if_neg hRoot]

/-- A base narrows the view, if it is not the root. -/
theorem narrows_iff (hNames : BaseNames r names) (hBase : r.base = some base) (h : Trimmed base) :
    r.narrows = true ↔ base ≠ ['/'] := by
  rw [hNames.narrows, ← hNames.bytes, baseText_eq hBase, one_lt_byteLength_iff h]

/-- Where an absolute path is placed: a base that it begins with is not put in front of it again. -/
theorem eq_of_confine_absolute (hNames : BaseNames r names) (hBase : r.base = some base)
    (h : Trimmed base) {raised : Bool} {path real : Text} (hPath : isAbsolute path = true)
    (hReal : r.confine raised path = .ok real) :
    real = if base ≠ ['/'] ∧ base ++ ['/'] <+: clean path then clean path
      else rootText base ++ clean path := by
  have hSource : r.source path = path := source_of_absolute hPath
  have hPlaced := eq_of_confine hNames (hSource.symm ▸ hPath) hReal
  simp only [hSource, withoutBase_eq hNames, baseText_eq hBase, one_lt_byteLength_iff h,
    baseRoot_eq hBase h] at hPlaced
  rw [hPlaced]
  split
  · rename_i hBelow
    obtain ⟨hRoot, tail, hTail⟩ := hBelow
    rw [← hTail, List.append_assoc base, List.drop_left, rootText, if_neg hRoot]
    simp
  · obtain ⟨rest, hRest⟩ := (Path.tidy_clean hPath).eq_slash_cons
    rw [hRest, List.append_assoc]
    rfl

/-- The directory of an entry as seen from the base. -/
theorem stripBase_dir (hNames : BaseNames r names) (hBase : r.base = some base) (h : Trimmed base)
    {dir : Text} (hDir : dir = [] ∨ isAbsolute dir = true) :
    r.stripBase (if rootText base ++ dir = [] then ['/'] else rootText base ++ dir) =
      if dir = [] then ['/'] else dir := by
  rcases hDir with rfl | hAbsolute
  · rw [List.append_nil, if_pos rfl, stripBase]
    by_cases hRoot : base = ['/']
    · rw [if_neg fun hNarrow => (narrows_iff hNames hBase h).mp hNarrow hRoot, hRoot]
      rfl
    · obtain ⟨rest, rfl⟩ := h.tidy.eq_slash_cons
      rw [if_pos ((narrows_iff hNames hBase h).mpr hRoot), rootText, if_neg hRoot,
        if_neg (List.cons_ne_nil _ _), baseText_eq hBase, Path.below?,
        Text.after?_eq_some_iff.mpr (List.append_nil _).symm]
  · obtain ⟨rest, rfl⟩ := Path.isAbsolute_iff.mp hAbsolute
    have hPlace : rootText base ++ '/' :: rest = r.baseRoot ++ ('/' :: rest).tail := by
      rw [baseRoot_eq hBase h, List.append_assoc]
      rfl
    rw [if_neg (by simp), hPlace, stripBase_baseRoot_append hNames hAbsolute,
      if_neg (List.cons_ne_nil _ _)]

/-- Without aliases a lookup is a placement. -/
theorem confine_of_lookup_of_isEmpty (h : r.aliases.isEmpty = true) {raised : Bool} {path : Text}
    {resolved : Resolved} (hLookup : r.lookup raised path true = .ok resolved) :
    r.confine raised path = .ok resolved.real := by
  obtain ⟨placed, hPlaced⟩ := exists_confine_of_lookup hLookup
  rw [lookup_true_of_confine hPlaced, crossing?_of_isEmpty h] at hLookup
  obtain rfl := Except.ok.inj hLookup
  exact hPlaced

/-- Without aliases there is no way back from a real path but by the base. -/
theorem virtualPath?_of_isEmpty (h : r.aliases.isEmpty = true) (path : Text) :
    r.virtualPath? path = none := by
  rw [virtualPath?, List.isEmpty_iff.mp h]
  rfl

end Resolver

-- ---------------------------------------------------------------------------
-- Following a target
-- ---------------------------------------------------------------------------

variable {base dir name real target : Text}

/-- Beneath a base is what begins with it and a slash. -/
theorem beneath_iff : Beneath base real ↔ rootText base ++ ['/'] <+: real := by
  rw [Beneath, rootText]
  split
  · rw [Path.isAbsolute_iff, List.nil_append]
    constructor
    · rintro ⟨rest, hRest⟩
      exact ⟨rest, hRest.symm⟩
    · rintro ⟨rest, hRest⟩
      exact ⟨rest, hRest.symm⟩
  · rfl

/-- An absolute path behind the base lies beneath it. -/
theorem beneath_rootText_append {path : Text} (h : isAbsolute path = true) :
    Beneath base (rootText base ++ path) := by
  obtain ⟨rest, rfl⟩ := Path.isAbsolute_iff.mp h
  exact beneath_iff.mpr ⟨rest, List.append_assoc _ _ _⟩

/-- An entry below the base lies in the base itself or in a directory that begins with a slash. -/
theorem EntryAt.dir_shape (h : EntryAt base dir name real) (hReal : Beneath base real) :
    dir = [] ∨ isAbsolute dir = true := by
  obtain ⟨rest, rfl⟩ := beneath_iff.mp hReal
  obtain ⟨tail, hTail⟩ : ∃ tail, '/' :: rest = dir ++ tail := by
    rcases h.real with hReal | hReal
    · rw [List.append_assoc, List.append_assoc, List.append_cancel_left_eq] at hReal
      exact ⟨_, hReal⟩
    · rw [List.append_assoc, List.append_assoc, List.append_assoc,
        List.append_cancel_left_eq] at hReal
      exact ⟨_, hReal⟩
  cases dir with
  | nil => exact Or.inl rfl
  | cons c dir =>
    obtain ⟨rfl, -⟩ := List.cons.inj hTail
    exact Or.inr rfl

/-- An entry of a directory as seen from the base is absolute. -/
theorem isAbsolute_dir_append (hDir : dir = [] ∨ isAbsolute dir = true) :
    isAbsolute (dir ++ '/' :: target) = true := by
  rcases hDir with rfl | hAbsolute
  · rfl
  · obtain ⟨rest, rfl⟩ := Path.isAbsolute_iff.mp hAbsolute
    rfl

/-- A target leads to no place outside. -/
theorem beneath_followed (hDir : dir = [] ∨ isAbsolute dir = true) :
    Beneath base (followed base dir target) := by
  rw [followed]
  cases hTarget : isAbsolute target with
  | true =>
    have hClean := Path.tidy_clean hTarget
    rw [if_pos rfl]
    split
    · rename_i hKept
      by_cases hRoot : base = ['/']
      · rw [Beneath, if_pos hRoot]
        exact hClean.absolute
      · rw [Beneath, if_neg hRoot]
        exact hKept.resolve_left hRoot
    · exact beneath_rootText_append hClean.absolute
  | false =>
    rw [if_neg Bool.false_ne_true]
    exact beneath_rootText_append (Path.tidy_clean (isAbsolute_dir_append hDir)).absolute

/-- A directory and its entries read the same whether the root is written `/` or left out. -/
theorem clean_dir (dir target : Text) :
    clean ((if dir = [] then ['/'] else dir) ++ '/' :: target) = clean (dir ++ '/' :: target) := by
  split
  · rename_i hEmpty
    rw [hEmpty, Path.clean_eq_normal, Path.clean_eq_normal]
    exact Path.normal_skip [] [] target rfl
  · rfl

namespace Session

variable {s : Session}

/-- **What the session looks up for a target leads there.** -/
theorem real_of_lookup_linkTarget (hs : s.Confined) (hBase : s.resolver.base = some base)
    (hTable : s.resolver.aliases.isEmpty = true) (hEntry : EntryAt base dir name real)
    (hReal : Beneath base real)
    (hInside : isAbsolute target = false → base ≠ ['/'] →
      ¬ base ++ ['/'] <+: clean (dir ++ '/' :: target))
    {raised : Bool} {resolved : Resolved}
    (hLookup : s.resolver.lookup raised (s.linkTarget real target) true = .ok resolved) :
    resolved.real = followed base dir target := by
  have hTrimmed := hs.canonical.base base hBase
  obtain ⟨names, hNames⟩ := hs.canonical.baseNames
  have hPlaced := Resolver.confine_of_lookup_of_isEmpty hTable hLookup
  have hDir := hEntry.dir_shape hReal
  rw [linkTarget] at hPlaced
  cases hTarget : isAbsolute target with
  | true =>
    rw [if_pos hTarget, Resolver.virtualPath?_of_isEmpty hTable, Option.getD_none] at hPlaced
    rw [Resolver.eq_of_confine_absolute hNames hBase hTrimmed hTarget hPlaced, followed,
      if_pos hTarget]
    by_cases hRoot : base = ['/']
    · simp [hRoot, rootText]
    · simp [hRoot]
  | false =>
    rw [hTarget, if_neg Bool.false_ne_true, parent_of_entryAt hEntry] at hPlaced
    simp only [Option.getD_some, Resolver.virtualPath?_of_isEmpty hTable, Option.getD_none,
      Resolver.stripBase_dir hNames hBase hTrimmed hDir] at hPlaced
    have hPath : isAbsolute ((if dir = [] then ['/'] else dir) ++ '/' :: target) = true := by
      split
      · rfl
      · exact isAbsolute_dir_append hDir
    rw [Resolver.eq_of_confine_absolute hNames hBase hTrimmed hPath hPlaced, clean_dir,
      if_neg fun hBelow => hInside hTarget hBelow.1 hBelow.2, followed, hTarget,
      if_neg Bool.false_ne_true]

/-- What a requested path comes to without aliases lies beneath the base. -/
theorem beneath_of_unaliased (hs : s.Confined) (hBase : s.resolver.base = some base)
    {raised : Bool} {path : Text} (h : s.unaliased raised path = .ok real) :
    Beneath base real := by
  obtain ⟨names, hNames⟩ := hs.canonical.baseNames
  cases hVirtual : s.normalized path with
  | error e =>
    rw [unaliased, hVirtual] at h
    cases h
  | ok virtual =>
    rw [unaliased_of_normalized hVirtual] at h
    exact Resolver.beneath_of_baseRoot_prefix hBase (hs.canonical.base base hBase)
      (Resolver.tidy_of_confine hNames h)
      (Resolver.baseRoot_prefix_of_confine hNames (isAbsolute_source_normalized hs hVirtual) h)

end Session

end PathJail
