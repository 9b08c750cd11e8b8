import PathJail.Proofs.Dialogue.Reports
import PathJail.Host.Fixed
import PathJail.Proofs.Session.Translation

/-!
# Sessions without a base

A session without a base is the plain host. Each request is a call with the paths that it came with,
and the client has the host's answer to it; a listing shows what the host lists. This lasts until a
request confines the session, and only one that is there to confine it does so.

A configuration that turns the engine off confines nothing, so it leaves a session without a base as
plain as it was. It does not free a session that has a base: that one is still confined.

* `Plain`           — every request goes to the host as it is.
* `plain_of_bare`   — a session without a base is plain.
* `PlainUntilBase`  — it stays plain along a history until a request gives it a base.
* `engine_off`      — what a configuration does that turns the engine off.
-/

namespace PathJail

/-- A call to the host, and what the client is given of the reply. -/
structure HostCall where
  call : Call
  wrap : call.Reply → Answer

/-- The call that a request is by itself, with its paths as they are. -/
def Request.asCall? : Request → Option HostCall
  | .stat path => some ⟨.stat path, .metadata⟩
  | .lstat path => some ⟨.lstat path, .metadata⟩
  | .openFile path => some ⟨.openFile path, fun _ => .done⟩
  | .readlink path => some ⟨.readLink path, .target⟩
  | .link source destination => some ⟨.link source destination, fun _ => .done⟩
  | .symlink target entry => some ⟨.symlink target entry, fun _ => .done⟩
  | .rename source destination => some ⟨.rename source destination, fun _ => .done⟩
  | .truncate path length => some ⟨.truncate path length, fun _ => .done⟩
  | .chmod path mode => some ⟨.chmod path mode, fun _ => .done⟩
  | .chown path uid gid => some ⟨.chown path uid gid, fun _ => .done⟩
  | .lchown path uid gid => some ⟨.lchown path uid gid, fun _ => .done⟩
  | .utimes path accessed modified => some ⟨.utimes path accessed modified, fun _ => .done⟩
  | .mkdir path mode => some ⟨.mkdir path mode, fun _ => .done⟩
  | .rmdir path => some ⟨.rmdir path, fun _ => .done⟩
  | .unlink path => some ⟨.unlink path, fun _ => .done⟩
  | .chdir path => some ⟨.chdir path, fun _ => .done⟩
  | _ => none

namespace OpenDir

/-- Without aliases a directory is read as the host lists it. -/
theorem left_of_no_aliases {dir : OpenDir} (h : dir.aliases = []) :
    dir.left = dir.pending.results.map (Except.map HostEntry.visible) := by
  rw [left, overlay, h, List.map_nil, List.append_nil, Listing.results, List.map_filterMap]
  refine List.filterMap_congr fun item _ => ?_
  rcases item with ⟨failure | entry⟩ | raw <;> rfl

end OpenDir

namespace Session

variable {s : Session} {σ : Type}

-- ---------------------------------------------------------------------------
-- Plain sessions
-- ---------------------------------------------------------------------------

/-- The session is the plain host: no path is translated, nothing is guarded, and nothing is laid
over a listing. -/
structure Plain (s : Session) : Prop where
  calls : ∀ request asked, request.asCall? = some asked →
    s.perform request = s.observe asked.wrap (Attempt.ask asked.call)
  opendir : ∀ path, s.opendir path = do
    let listing ← Attempt.ask (.openDir path)
    let (handle, dirs) := s.dirs.insert path listing []
    return (handle, { s with dirs := dirs })
  readDir : ∀ {σ : Type} (host : Host σ) (state : σ) path,
    let run := (s.readDir path).run host state
    run.calls = [.openDir path] ∧
      run.value.1 = ((host.answer (.openDir path) state).1 >>= fun listing =>
        listing.results.mapM (Except.map HostEntry.visible)).mapError .host

/-- Without a base all requests pass by. -/
theorem bypasses_of_bare (h : s.resolver.base = none) : s.bypasses = true := by
  rw [bypasses, Resolver.hasBase, h]
  rfl

/-- A path goes to the host as it came. -/
theorem target_of_bare (h : s.resolver.base = none) (path : Text) : s.target path = pure path := by
  rw [target, bypasses_of_bare h, if_pos rfl]

/-- A directory is opened without names to be laid over it. -/
theorem opendir_of_bare (h : s.resolver.base = none) (path : Text) : s.opendir path = do
    let listing ← Attempt.ask (.openDir path)
    let (handle, dirs) := s.dirs.insert path listing []
    return (handle, { s with dirs := dirs }) := by
  rw [opendir, bypasses_of_bare h, if_pos rfl]

/-- A request is the call that it is by itself. -/
theorem perform_of_bare (h : s.resolver.base = none) {request : Request} {asked : HostCall}
    (hAsked : request.asCall? = some asked) :
    s.perform request = s.observe asked.wrap (Attempt.ask asked.call) := by
  have hBypass := bypasses_of_bare h
  have hTarget := target_of_bare h
  cases request <;> cases hAsked
  case lstat path => rw [perform, lstat, hBypass, if_pos rfl]
  case readlink path => rw [perform, readlink, hBypass, if_pos rfl]
  case rmdir path => rw [perform, rmdir, hBypass, if_pos rfl]
  case unlink path =>
    rw [perform, unlink, Resolver.hasBase, h, Option.isSome_none, Bool.not_false, if_pos rfl]
  case chdir path =>
    rw [perform, chdir, hBypass, if_pos rfl]
    refine congrArg (Dialogue.ask _) (funext fun reply => ?_)
    cases reply <;> rfl
  all_goals
    simp only [perform, stat, openFile, link, symlink, rename, truncate, chmod, chown, lchown,
      utimes, mkdir, hTarget, pure_bind]

/-- A directory that is open is read to its end and closed. -/
theorem yields_drain {handle : DirHandle} {dir : OpenDir}
    (hDir : s.dirs.get? handle = some dir) (host : Host σ) (state : σ) :
    Dialogue.Yields (do
        let (entries, read) ← s.entries handle
        match ← (read.closedir handle).run with
        | .error e => return (.error e, read)
        | .ok closed => return (entries, closed)) host state
      (dir.drain.result.mapError Error.host, { s with
        dirs := (s.dirs.set handle.slot dir.drain.rest).erase handle.slot }) [] := by
  let read : Session := { s with dirs := s.dirs.set handle.slot dir.drain.rest }
  have hEntries : (s.entries handle).Yields host state
      (dir.drain.result.mapError Error.host, read) [] := by
    rw [entries_of_get? hDir]
    constructor <;> rw [Run.run_bind, Dialogue.run_notes] <;> rfl
  have hClosed : (read.closedir handle).Yields host state
      (.ok { read with dirs := read.dirs.erase handle.slot }) [] := by
    rw [closedir_of_get? (OpenDirs.get?_set hDir (OpenDir.drain_generation dir))]
    exact ⟨rfl, rfl⟩
  exact hEntries.bind (Dialogue.Yields.bind hClosed (Dialogue.yields_done.mpr ⟨rfl, rfl⟩))

/-- The record of the directory has no aliases, and is there to be read and closed. -/
theorem readDir_of_bare (h : s.resolver.base = none) (host : Host σ) (state : σ) (path : Text) :
    ∃ last : Session, (s.readDir path).Yields host state
      (((host.answer (.openDir path) state).1 >>= fun listing =>
        listing.results.mapM (Except.map HostEntry.visible)).mapError Error.host, last)
      [.openDir path] := by
  have hAsk := Attempt.yields_ask (.openDir path) host state
  cases hAnswer : (host.answer (.openDir path) state).1 with
  | error failure =>
    rw [hAnswer] at hAsk
    have hOpen : (s.opendir path).Yields host state (.error (.host failure)) [.openDir path] := by
      rw [opendir_of_bare h]
      exact hAsk.bind_error
    exact ⟨s, Dialogue.Yields.bind hOpen (Dialogue.yields_done.mpr ⟨rfl, rfl⟩)⟩
  | ok listing =>
    rw [hAnswer] at hAsk
    have hDir := s.dirs.get?_insert path listing []
    have hOpen : (s.opendir path).Yields host state
        (.ok ((s.dirs.insert path listing []).1,
          { s with dirs := (s.dirs.insert path listing []).2 })) [.openDir path] := by
      rw [opendir_of_bare h]
      exact hAsk.bind ((Attempt.yields_pure _).mpr ⟨rfl, rfl⟩)
    have hDrain := yields_drain (s := { s with dirs := (s.dirs.insert path listing []).2 }) hDir
      host (host.after state [.openDir path])
    rw [OpenDir.drain_result, OpenDir.left_of_no_aliases rfl, List.mapM_map] at hDrain
    exact ⟨_, Dialogue.Yields.bind hOpen hDrain⟩

/-- **A session without a base is plain.** -/
theorem plain_of_bare (h : s.resolver.base = none) : s.Plain where
  calls _ _ hAsked := perform_of_bare h hAsked
  opendir := opendir_of_bare h
  readDir host state path := by
    obtain ⟨last, hRun⟩ := readDir_of_bare h host state path
    exact ⟨hRun.calls, congrArg Prod.fst hRun.value⟩

-- ---------------------------------------------------------------------------
-- Bases
-- ---------------------------------------------------------------------------

-- What is done to the open directories leaves the resolver as it is.

theorem every_opendir_resolver (s : Session) (path : Text) :
    (s.opendir path).Every (fun _ => True) fun opened => opened.2.resolver = s.resolver :=
  (every_opendir s path).mono fun _ ⟨_, _, _, _, hOpened⟩ => hOpened ▸ rfl

theorem every_readdir_resolver (s : Session) (handle : DirHandle) :
    (s.readdir handle).Every (fun _ => True) fun read => read.2.resolver = s.resolver := by
  cases hDir : s.dirs.get? handle with
  | none =>
    rw [readdir, hDir]
    exact rfl
  | some dir => simp [readdir_of_get? hDir]

theorem every_entries_resolver (s : Session) (handle : DirHandle) :
    (s.entries handle).Every (fun _ => True) fun read => read.2.resolver = s.resolver := by
  cases hDir : s.dirs.get? handle with
  | none =>
    rw [entries, hDir]
    exact rfl
  | some dir => simp [entries_of_get? hDir]

theorem every_closedir_resolver (s : Session) (handle : DirHandle) :
    (s.closedir handle).Every (fun _ => True) fun next => next.resolver = s.resolver := by
  cases hDir : s.dirs.get? handle with
  | none => simp [closedir, OpenDirs.remove, hDir]
  | some dir => simp [closedir_of_get? hDir]

theorem every_readDir_resolver (s : Session) (path : Text) :
    (s.readDir path).Every (fun _ => True) fun read => read.2.resolver = s.resolver := by
  rw [readDir, Dialogue.every_bind]
  refine Dialogue.Every.mono (every_opendir_resolver s path) fun result hOpened => ?_
  cases result with
  | error e => exact rfl
  | ok opened =>
    rw [Dialogue.every_bind]
    refine (every_entries_resolver opened.2 opened.1).mono fun read hRead => ?_
    have hSame : read.2.resolver = s.resolver := hRead.trans (hOpened opened rfl)
    rw [Dialogue.every_bind]
    refine Dialogue.Every.mono (every_closedir_resolver read.2 opened.1) fun closing hClosed => ?_
    cases closing with
    | error e => exact hSame
    | ok closed => exact (hClosed closed rfl).trans hSame

/-- Only a request that confines the session gives it a base. -/
theorem every_perform_bare (h : s.resolver.base = none) {request : Request}
    (hRequest : request.setsBase = false) :
    (s.perform request).Every (fun _ => True) fun outcome => outcome.2.resolver.base = none := by
  have hKept {next : Session} (hSame : next.resolver = s.resolver) : next.resolver.base = none :=
    hSame ▸ h
  cases hAsked : request.asCall? with
  | some asked =>
    rw [perform_of_bare h hAsked]
    exact every_observe (Attempt.every_true _) fun _ => h
  | none =>
    cases request with
    | chroot | configure => cases hRequest
    | creat path mode => exact every_observe (Attempt.every_true _) fun _ => h
    | opendir path =>
      rw [perform, Dialogue.every_bind]
      refine Dialogue.Every.mono (every_opendir_resolver s path) fun result hOpened => ?_
      cases result with
      | error e => exact h
      | ok opened => exact hKept (hOpened opened rfl)
    | readdir handle =>
      rw [perform, Dialogue.every_bind]
      exact (every_readdir_resolver s handle).mono fun _ => hKept
    | entries handle =>
      rw [perform, Dialogue.every_bind]
      exact (every_entries_resolver s handle).mono fun _ => hKept
    | closedir handle =>
      exact every_advance (every_closedir_resolver s handle) (fun _ => h) fun _ => hKept
    | readDir path =>
      rw [perform, Dialogue.every_bind]
      exact (every_readDir_resolver s path).mono fun _ => hKept
    | installAliases aliases =>
      rw [perform, Dialogue.every_bind, installAliases, Resolver.hasBase, h]
      simp only [Option.isSome_none, Bool.false_eq_true, if_false]
      split
      · simp [h]
      · simp [h]
    | setPhase phase => exact h
    | teardown => exact rfl
    | _ => cases hAsked

/-- The session is plain as long as no request gives it a base; one that does is there for it. -/
def PlainUntilBase (host : Host σ) (s : Session) (state : σ) : List Request → Prop
  | [] => s.Plain
  | request :: requests =>
    let run := (s.perform request).run host state
    s.Plain ∧ (request.setsBase = true ∧ run.value.2.resolver.base.isSome = true ∨
      PlainUntilBase host run.value.2 run.state requests)

/-- Induction on the requests. -/
theorem plainUntilBase_of_bare (h : s.resolver.base = none) (host : Host σ) (state : σ)
    (requests : List Request) : PlainUntilBase host s state requests := by
  induction requests generalizing s state with
  | nil => exact plain_of_bare h
  | cons request requests ih =>
    refine ⟨plain_of_bare h, ?_⟩
    cases hNext : ((s.perform request).run host state).value.2.resolver.base with
    | none => exact Or.inr (ih hNext _)
    | some base =>
      refine Or.inl ⟨?_, rfl⟩
      by_contra hRequest
      have hBare := (every_perform_bare h (Bool.eq_false_iff.mpr hRequest)).ends
        (Dialogue.ends_run host _ state)
      rw [hNext] at hBare
      cases hBare

-- ---------------------------------------------------------------------------
-- The engine
-- ---------------------------------------------------------------------------

/-- What a configuration makes of a session before it confines it. -/
def withSettings (s : Session) (config : Config) : Session :=
  { s with
    options := config.options
    log := config.log
    resolver := s.resolver.setLimits config.limits }

/-- The configuration says that it is off, keeps the settings, and is done. -/
theorem perform_configure_of_engine_off (s : Session) {config : Config} (hOff : config.engine = false) :
    s.perform (.configure config) = do
      Dialogue.notes [.engineDisabled]
      return (.ok (.aliases {}), s.withSettings config) := by
  show s.configure config >>= _ = _
  rw [configure, hOff]
  rfl

/--
**A configuration that turns the engine off** succeeds and asks the host for nothing. It puts
options, log and limits in force and leaves the rest of the session as it is, the base included. A
session that had no base is plain from there on, whatever is asked of it and whatever the host
answers, until a request that confines sessions has given it one.
-/
theorem engine_off {config : Config} (hOff : config.engine = false) (host : Host σ) (state : σ) :
    (s.perform (.configure config)).Yields host state
        (.ok (.aliases {}), s.withSettings config) [] ∧
      (s.resolver.base = none →
        ∀ requests, PlainUntilBase host (s.withSettings config) state requests) := by
  refine ⟨?_, fun hBare => plainUntilBase_of_bare (s := s.withSettings config) hBare host state⟩
  rw [perform_configure_of_engine_off s hOff]
  exact ⟨rfl, rfl⟩

/-- A configuration with a root that is not installed. -/
def switchedOff : Config := { engine := false, root := some "/store".toList }

/-- A path that climbs reaches the host as it is. -/
theorem engine_off_new :
    switchedOff.engine = false ∧ Session.new.resolver.base = none ∧
      ((Session.new.perform (.configure switchedOff)).run (({} : FixedHost).toHost) false).value =
        (.ok (.aliases {}), Session.new.withSettings switchedOff) ∧
      (((Session.new.withSettings switchedOff).perform (.stat "a/../b".toList)).run
        (({} : FixedHost).toHost) false).calls = [.stat "a/../b".toList] := by
  obtain ⟨hRun, hLater⟩ := engine_off (s := .new) (show switchedOff.engine = false from rfl)
    (({} : FixedHost).toHost) false
  have hPlain : Plain (Session.new.withSettings switchedOff) := hLater rfl []
  refine ⟨rfl, rfl, hRun.value, ?_⟩
  rw [hPlain.calls (.stat "a/../b".toList) _ rfl]
  rfl

/-- The engine is turned off, and a session that has a base keeps it: the path is translated. -/
theorem confined_with_engine_off :
    storeSession.Reachable ∧
      ((storeSession.perform (.configure { engine := false })).run
        (({} : FixedHost).toHost) false).value = (.ok (.aliases {}), storeSession) ∧
      ((storeSession.perform (.openFile "/x".toList)).run (({} : FixedHost).toHost) false).calls =
        [.openFile "/store/x".toList] := by
  have hs : storeSession.Confined := ⟨reachable_storeSession.resolver.canonical, rfl⟩
  have hConfigure : (storeSession.perform (.configure { engine := false })).Yields
      (({} : FixedHost).toHost) false (.ok (.aliases {}), storeSession) [] := by
    rw [perform_configure_of_engine_off storeSession rfl]
    exact ⟨rfl, rfl⟩
  have hVirtual : storeSession.normalized "/x".toList = .ok "/x".toList := by
    rw [normalized, Path.clean_eq_normal]
    rfl
  have hTarget := yields_target hs rfl "/x".toList (({} : FixedHost).toHost) false
  have hReal : storeSession.translated false "/x".toList = .ok "/store/x".toList := by
    rw [translated_of_normalized hVirtual, lookup_storeSession]
    · rfl
    · rw [Resolver.placement, Path.clean_eq_normal]
      rfl
  rw [show (({} : FixedHost).toHost).raised false = false from rfl, hReal] at hTarget
  have hOpen : (storeSession.openFile "/x".toList).Yields (({} : FixedHost).toHost) false _
      [.openFile "/store/x".toList] :=
    hTarget.then (Attempt.yields_ask (.openFile "/store/x".toList) _ false)
  exact ⟨reachable_storeSession, hConfigure.value, (yields_observe hOpen).calls⟩

end Session

end PathJail
