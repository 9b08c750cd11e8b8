import PathJail.Proofs.Session.Listing

/-!
# What every session keeps in order

The paths that a session keeps come in by several ways: as a root, with or without a server root
taken off, from a configuration, as either side of an alias, and as a directory that was changed to.
Each way makes them canonical. The rest of the state is small: whether the process is confined goes
with the base, and every open directory carries names in ascending order.

* `Reachable.paired`, `Reachable.ascending` — by induction on the way to the session, with
  `every_perform` for its steps.
* `Orderly`, `orderly_of_reachable`         — all of it, in every session that comes about.
-/

namespace PathJail.Session

open PathJail.Path (Trimmed)

variable {s : Session}

/-- A session has a root of its own if and only if it has a base. -/
theorem Reachable.paired (h : s.Reachable) : s.Paired := by
  induction h with
  | new => rfl
  | withOptions options _ ih => exact ih
  | withLimits limits _ ih => exact ih
  | withLog log _ ih => exact ih
  | perform request _ hEnds ih => exact ((every_perform _ request).ends hEnds).paired ih
  | reorder table _ hPerm ih => exact ih

/-- The names that are laid over listings ascend. -/
theorem Reachable.ascending (h : s.Reachable) : s.dirs.Ascending := by
  induction h with
  | new => exact nofun
  | withOptions options _ ih => exact ih
  | withLimits limits _ ih => exact ih
  | withLog log _ ih => exact ih
  | perform request _ hEnds ih => exact ih.step ((every_perform _ request).ends hEnds).dirs
  | reorder table _ hPerm ih => exact ih

/-- The state of a session is in order: the paths are canonical, the process is confined if and only
if there is a base, and the names of aliases that an open directory has still to list ascend by
their bytes. When the directory is opened these are all its names. -/
structure Orderly (s : Session) : Prop where
  base : ∀ base, s.resolver.base = some base → Trimmed base
  cwd : Trimmed s.resolver.cwd
  key : ∀ entry ∈ s.resolver.aliases.entries, Trimmed entry.1
  source : ∀ entry ∈ s.resolver.aliases.entries, Trimmed entry.2
  paired : s.chrootPath.isSome = s.resolver.base.isSome
  names : ∀ record ∈ s.dirs.records,
    record.2.aliases.Pairwise fun a b => Text.bytes a < Text.bytes b

/-- **Every session is in order**, whatever was asked of it before, whatever the host answered, and
whichever of the requests failed. -/
theorem orderly_of_reachable (h : s.Reachable) : s.Orderly where
  base := h.resolver.canonical.base
  cwd := h.resolver.canonical.cwd
  key := h.resolver.canonical.key
  source := h.resolver.canonical.source
  paired := h.paired
  names := fun record hRecord =>
    (h.ascending record hRecord).imp Text.bytes_lt_bytes_iff.mpr

/-- The session comes about by three requests. -/
theorem reachable_listedSession : listedSession.Reachable := by
  have hOpened : (pubSession.perform (.opendir "/".toList)).Ends
      (.ok (.handle ⟨0, 1⟩), listedSession) :=
    (Dialogue.Yields.ends opendir_listedSession).bind (.done _)
  exact .perform (.opendir "/".toList) reachable_pubSession hOpened

theorem orderly_listedSession : listedSession.Reachable ∧ listedSession.Orderly :=
  ⟨reachable_listedSession, orderly_of_reachable reachable_listedSession⟩

end PathJail.Session
