import PathJail.Proofs.Resolver.Contained
import PathJail.Proofs.Session.Reachable

/-!
# What the host is asked for

While a session has a base and serves its client, every path that it gives to the host lies below
the base, or at an alias's real path or below it. That holds of every request and whatever the host
answers: a link to a directory is followed by looking its target up again, so the chain of links
stays inside link by link.

* `Allows`             — a call is asked for such paths only.
* `every_followLinks`  — the walk along links to a directory, by induction on the links left.
* `calls_contained`    — the calls of all requests, in every session that comes about.
-/

namespace PathJail

/-- Whether a request gives the session another base. -/
def Request.setsBase : Request → Bool
  | .chroot _ | .configure _ => true
  | _ => false

namespace Session

open PathJail.Path (Tidy isAbsolute clean)
open Resolver (Contained Beneath)

variable {s : Session}

/-- Every path that the call carries is one that the session may reach. -/
def Allows (s : Session) (call : Call) : Prop := ∀ path ∈ call.paths, s.resolver.Contained path

/-- The session is confined, and the paths that its resolver keeps are canonical. -/
structure Confined (s : Session) : Prop where
  canonical : s.resolver.Canonical
  base : s.resolver.base.isSome = true

-- ---------------------------------------------------------------------------
-- Paths that are looked up
-- ---------------------------------------------------------------------------

/-- What is looked up for an absolute path is absolute. -/
theorem isAbsolute_source {r : Resolver} {path : Text} (h : isAbsolute path = true) :
    isAbsolute (r.source path) = true := by
  rwa [Resolver.source_of_absolute h]

/-- A path is absolute from the working directory on. -/
theorem isAbsolute_fromCwd (hs : s.Confined) (path : Text) :
    isAbsolute (s.resolver.fromCwd path) = true := by
  obtain ⟨rest, hRest⟩ := hs.canonical.cwd.tidy.eq_slash_cons
  rw [Resolver.fromCwd, hRest]
  rfl

theorem isAbsolute_realpath (hs : s.Confined) (path : Text) :
    isAbsolute (s.resolver.realpath path true) = true := by
  refine (Path.trimmed_trimSlash (Path.tidy_clean ?_)).tidy.absolute
  cases hAbsolute : isAbsolute path with
  | true => simp [hAbsolute]
  | false => simp [isAbsolute_fromCwd hs]

/-- What a request anchors is the directory itself, or absolute. -/
theorem anchored_cases (hs : s.Confined) {path : Text} (hPath : path ≠ []) :
    s.anchored path = ['.'] ∨ isAbsolute (s.anchored path) = true := by
  rw [anchored]
  split
  · rename_i hPlain
    rcases hPlain with hAbsolute | hDot | hEmpty
    · exact Or.inr hAbsolute
    · exact Or.inl hDot
    · exact absurd hEmpty hPath
  · exact Or.inr (isAbsolute_fromCwd hs path)

/-- A lookup of `.` is one of the working directory. -/
theorem isAbsolute_source_dot (hs : s.Confined) : isAbsolute (s.resolver.source ['.']) = true := by
  rw [Resolver.source, if_pos rfl]
  exact hs.canonical.cwd.tidy.absolute

theorem isAbsolute_source_anchored (hs : s.Confined) {path : Text} (hPath : path ≠ []) :
    isAbsolute (s.resolver.source (s.anchored path)) = true := by
  rcases anchored_cases hs hPath with hDot | hAbsolute
  · rw [hDot]
    exact isAbsolute_source_dot hs
  · exact isAbsolute_source hAbsolute

/-- The path that an alias test looks up is canonical; a `.` stands for the working directory. -/
theorem trimmed_source_normalized (hs : s.Confined) {path virtual : Text}
    (h : s.normalized path = .ok virtual) : Path.Trimmed (s.resolver.source virtual) := by
  rw [normalized] at h
  split at h
  · cases h
  rename_i hPath
  obtain rfl := Except.ok.inj h
  rcases anchored_cases hs hPath with hDot | hAbsolute
  · have hClean : Path.trimSlash (clean ['.']) = ['.'] := by
      rw [Path.clean_eq_normal]
      rfl
    rw [hDot, hClean, Resolver.source, if_pos rfl]
    exact hs.canonical.cwd
  · have hTrimmed := Path.trimmed_trimSlash (Path.tidy_clean hAbsolute)
    rwa [Resolver.source_of_absolute hTrimmed.tidy.absolute]

theorem isAbsolute_source_normalized (hs : s.Confined) {path virtual : Text}
    (h : s.normalized path = .ok virtual) : isAbsolute (s.resolver.source virtual) = true :=
  (trimmed_source_normalized hs h).tidy.absolute

theorem isAbsolute_linkTarget (hs : s.Confined) {real : Text} (hReal : isAbsolute real = true)
    (target : Text) : isAbsolute (s.linkTarget real target) = true := by
  rw [linkTarget]
  split
  · rename_i hTarget
    cases hVirtual : s.resolver.virtualPath? target with
    | none => exact hTarget
    | some virtual => exact Resolver.isAbsolute_of_virtualPath? hs.canonical hVirtual
  · have hDir : isAbsolute ((Path.parent real).getD ['/']) = true := by
      cases hParent : Path.parent real with
      | none => rfl
      | some dir => exact Path.isAbsolute_parent hReal hParent
    -- the directory that a relative target starts from, as a virtual path
    have hFrom : isAbsolute ((s.resolver.virtualPath? ((Path.parent real).getD ['/'])).getD
        (s.resolver.stripBase ((Path.parent real).getD ['/']))) = true := by
      cases hVirtual : s.resolver.virtualPath? ((Path.parent real).getD ['/']) with
      | none => exact Resolver.isAbsolute_stripBase hDir
      | some virtual => exact Resolver.isAbsolute_of_virtualPath? hs.canonical hVirtual
    obtain ⟨rest, hRest⟩ := Path.isAbsolute_iff.mp hFrom
    simp only [hRest]
    rfl

-- ---------------------------------------------------------------------------
-- Lookups
-- ---------------------------------------------------------------------------

/-- **A lookup** comes to a path inside. -/
theorem contained_of_lookup (hs : s.Confined) {raised follow : Bool} {path : Text}
    (hPath : isAbsolute (s.resolver.source path) = true) {resolved : Resolved}
    (hLookup : s.resolver.lookup raised path follow = .ok resolved) :
    s.resolver.Contained resolved.real :=
  Resolver.contained_of_lookup hs.canonical hs.base hPath hLookup

/-- A confined session that serves its client does not let requests pass by. -/
theorem bypasses_eq_false (hs : s.Confined) (hPhase : s.phase = .normal) : s.bypasses = false := by
  simp [bypasses, Resolver.hasBase, hs.base, hPhase]

/-- A requested path is resolved without a call, to a path inside. -/
theorem every_resolve {C : Call → Prop} (hs : s.Confined) (path : Text) :
    (s.resolve path).Every C s.resolver.Contained := by
  unfold resolve
  split
  · simp
  · simp only [Attempt.every_bind, Attempt.every_pure, Resolver.every_find]
    intro raised resolved hLookup
    exact contained_of_lookup hs (isAbsolute_source (isAbsolute_realpath hs path)) hLookup

theorem every_target {C : Call → Prop} (hs : s.Confined) (hNormal : s.bypasses = false)
    (path : Text) : (s.target path).Every C s.resolver.Contained := by
  rw [target, hNormal, if_neg Bool.false_ne_true]
  exact every_resolve hs path

/-- The test for an alias makes no call. -/
theorem every_isAlias {C : Call → Prop} (s : Session) (path : Text) :
    (s.isAlias path).Every C fun _ => True := by
  unfold isAlias
  split <;> simp

/-- A path that may be deleted is found without a call, and lies inside. -/
theorem every_deletable {C : Call → Prop} (hs : s.Confined) (path : Text) :
    (s.deletable path).Every C s.resolver.Contained := by
  unfold deletable
  simp only [Attempt.every_bind, Attempt.every_ofExcept]
  intro virtual hVirtual
  refine (every_isAlias s virtual).mono fun isAlias _ => ?_
  split
  · simp
  · simp only [Attempt.every_bind, Attempt.every_pure, Resolver.every_find]
    intro raised resolved hLookup
    exact contained_of_lookup hs (isAbsolute_source_normalized hs hVirtual) hLookup

-- ---------------------------------------------------------------------------
-- Requests on files
-- ---------------------------------------------------------------------------

theorem allows_one {call : Call} {path : Text} (hCall : call.paths = [path])
    (hPath : s.resolver.Contained path) : s.Allows call := by
  rw [Allows, hCall]
  simpa using hPath

theorem allows_two {call : Call} {first second : Text} (hCall : call.paths = [first, second])
    (hFirst : s.resolver.Contained first) (hSecond : s.resolver.Contained second) :
    s.Allows call := by
  rw [Allows, hCall]
  simpa using ⟨hFirst, hSecond⟩

/-- A request that puts the real path in the place of the requested one. -/
theorem every_target_bind {α : Type} {rest : Text → Attempt α} (hs : s.Confined)
    (hNormal : s.bypasses = false) (path : Text)
    (hRest : ∀ real, s.resolver.Contained real → (rest real).Every s.Allows fun _ => True) :
    Attempt.Every (s.target path >>= rest) s.Allows fun _ => True := by
  rw [Attempt.every_bind]
  exact (every_target hs hNormal path).mono hRest

theorem every_lstat (hs : s.Confined) (hNormal : s.bypasses = false) (path : Text) :
    (s.lstat path).Every s.Allows fun _ => True := by
  unfold lstat
  simp only [hNormal, Bool.false_eq_true, if_false, Attempt.every_bind, Attempt.every_ofExcept,
    Resolver.every_find]
  intro virtual hVirtual raised resolved hLookup
  have hReal := contained_of_lookup hs (isAbsolute_source_normalized hs hVirtual) hLookup
  split
  · exact Attempt.every_ask.mpr ⟨allows_one rfl hReal, fun _ => trivial⟩
  rw [Attempt.every_bind]
  refine (every_isAlias s virtual).mono fun isAlias _ => ?_
  split
  · exact Attempt.every_ask.mpr ⟨allows_one rfl hReal, fun _ => trivial⟩
  rw [Attempt.every_bind]
  refine Attempt.every_ask.mpr ⟨allows_one rfl hReal, fun metadata => ?_⟩
  split
  · exact Attempt.every_ask.mpr ⟨allows_one rfl hReal, fun _ => trivial⟩
  · simp

theorem every_readlink (hs : s.Confined) (hNormal : s.bypasses = false) (path : Text) :
    (s.readlink path).Every s.Allows fun _ => True := by
  unfold readlink
  simp only [hNormal, Bool.false_eq_true, if_false]
  by_cases hPath : path = []
  · simp [hPath]
  simp only [if_neg hPath, Attempt.every_bind, Resolver.every_find]
  intro raised resolved hLookup
  split
  · rw [pure_bind]
    have hSource := isAbsolute_source (r := s.resolver) (isAbsolute_realpath hs path)
    have hReal := contained_of_lookup hs hSource hLookup
    exact Attempt.every_ask.mpr ⟨allows_one rfl hReal, fun _ => trivial⟩
  · rw [Attempt.every_bind, Attempt.every_map, Resolver.every_find]
    intro raised' resolved' hLookup'
    have hReal := contained_of_lookup hs (isAbsolute_source_anchored hs hPath) hLookup'
    exact Attempt.every_ask.mpr ⟨allows_one rfl hReal, fun _ => trivial⟩

theorem every_rmdir (hs : s.Confined) (hNormal : s.bypasses = false) (path : Text) :
    (s.rmdir path).Every s.Allows fun _ => True := by
  unfold rmdir
  simp only [hNormal, Bool.false_eq_true, if_false, Attempt.every_bind]
  refine (every_deletable hs path).mono fun real hReal => ?_
  exact Attempt.every_ask.mpr ⟨allows_one rfl hReal, fun _ => trivial⟩

/-- Deleting a file is confined in every phase. -/
theorem every_unlink (hs : s.Confined) (path : Text) :
    (s.unlink path).Every s.Allows fun _ => True := by
  unfold unlink
  simp only [Resolver.hasBase, hs.base, Bool.not_true, Bool.false_eq_true, if_false,
    Attempt.every_bind]
  refine (every_deletable hs path).mono fun real hReal => ?_
  exact Attempt.every_ask.mpr ⟨allows_one rfl hReal, fun _ => trivial⟩

-- ---------------------------------------------------------------------------
-- Requests on directories
-- ---------------------------------------------------------------------------

theorem every_chdir_calls (hs : s.Confined) (hNormal : s.bypasses = false) (path : Text) :
    (s.chdir path).Every s.Allows fun _ => True := by
  unfold chdir
  simp only [hNormal, Bool.false_eq_true, if_false, Attempt.every_bind, Attempt.every_ofExcept,
    Resolver.every_find]
  intro virtual hVirtual raised resolved hLookup
  have hReal := contained_of_lookup hs (isAbsolute_source_normalized hs hVirtual) hLookup
  refine Attempt.every_ask.mpr ⟨allows_one rfl hReal, fun _ => ?_⟩
  simp

/-- **The walk along links stays inside.** Induction on the links that may still be followed. What
the host says of a link decides only which virtual path is looked up next, and the lookup is what
keeps that path inside. -/
theorem every_followLinks (hs : s.Confined) (left : Nat) {real : Text}
    (hReal : s.resolver.Contained real) :
    (s.followLinks left real).Every s.Allows s.resolver.Contained := by
  induction left generalizing real with
  | zero =>
    rw [followLinks, Attempt.every_bind]
    refine Attempt.every_reply.mpr ⟨allows_one rfl hReal, fun answer => ?_⟩
    cases answer with
    | error failure => exact (Attempt.every_pure real).mpr hReal
    | ok metadata =>
      simp only
      split
      · exact (Attempt.every_pure real).mpr hReal
      · simp
  | succ left ih =>
    rw [followLinks, Attempt.every_bind]
    refine Attempt.every_reply.mpr ⟨allows_one rfl hReal, fun answer => ?_⟩
    cases answer with
    | error failure => exact (Attempt.every_pure real).mpr hReal
    | ok metadata =>
      simp only
      split
      · exact (Attempt.every_pure real).mpr hReal
      rw [Attempt.every_bind]
      refine Attempt.every_ask.mpr ⟨allows_one rfl hReal, fun link => ?_⟩
      cases link with
      | bytes raw => simp
      | text target =>
        simp only [Attempt.every_bind, Attempt.every_note, Resolver.every_find]
        intro raised resolved hLookup
        have hTarget := isAbsolute_linkTarget hs hReal.tidy.absolute target
        exact ih (contained_of_lookup hs (isAbsolute_source hTarget) hLookup)

/-- A directory is looked for and opened inside. -/
theorem every_opendir_calls (hs : s.Confined) (hNormal : s.bypasses = false) (path : Text) :
    (s.opendir path).Every s.Allows fun _ => True := by
  unfold opendir
  simp only [hNormal, Bool.false_eq_true, if_false, Attempt.every_bind, Attempt.every_ofExcept,
    Resolver.every_find]
  intro virtual hVirtual raised resolved hLookup
  have hStart := contained_of_lookup hs (isAbsolute_source_normalized hs hVirtual) hLookup
  refine (every_followLinks hs _ hStart).mono fun real hReal => ?_
  refine Attempt.every_reply.mpr ⟨allows_one rfl hReal, fun answer => ?_⟩
  cases answer with
  | error failure => simp
  | ok listing =>
    simp only [Attempt.every_bind, Attempt.every_pure]
    exact (every_aliasNames s virtual real).mono fun _ _ => trivial

/-- What was opened is read and closed without a call. -/
theorem every_readDir_calls (hs : s.Confined) (hNormal : s.bypasses = false) (path : Text) :
    (s.readDir path).Every s.Allows fun _ => True := by
  unfold readDir
  rw [Dialogue.every_bind]
  refine Dialogue.Every.mono (every_opendir_calls hs hNormal path) fun result _ => ?_
  cases result with
  | error e => exact trivial
  | ok opened =>
    rw [Dialogue.every_bind]
    refine (every_entries opened.2 opened.1).mono fun read _ => ?_
    rw [Dialogue.every_bind]
    refine Dialogue.Every.mono (every_closedir read.2 opened.1) fun closing _ => ?_
    cases closing <;> exact trivial

-- ---------------------------------------------------------------------------
-- All requests
-- ---------------------------------------------------------------------------

/-- **Every request** but those that set a base makes allowed calls only. -/
theorem every_perform_calls (hs : s.Confined) {request : Request}
    (hPhase : s.bypasses = false ∨ ∃ path, request = .unlink path)
    (hRequest : request.setsBase = false) :
    (s.perform request).Every s.Allows fun _ => True := by
  rcases hPhase.symm with ⟨path, rfl⟩ | hNormal
  · exact every_observe (every_unlink hs path) fun _ => trivial
  unfold perform
  cases request with
  | lstat path => exact every_observe (every_lstat hs hNormal path) fun _ => trivial
  | creat path mode => exact every_observe (P := fun _ => True) (by simp [creat]) fun _ => trivial
  | readlink path => exact every_observe (every_readlink hs hNormal path) fun _ => trivial
  | link source destination | rename source destination | symlink source destination =>
    refine every_observe (every_target_bind hs hNormal source fun first hFirst => ?_)
      fun _ => trivial
    refine every_target_bind hs hNormal destination fun second hSecond => ?_
    exact Attempt.every_ask.mpr ⟨allows_two rfl hFirst hSecond, fun _ => trivial⟩
  | rmdir path => exact every_observe (every_rmdir hs hNormal path) fun _ => trivial
  | unlink path => exact every_observe (every_unlink hs path) fun _ => trivial
  | chdir path =>
    exact every_advance (every_chdir_calls hs hNormal path) (fun _ => trivial) fun _ _ => trivial
  | closedir handle =>
    exact every_advance (every_closedir s handle) (fun _ => trivial) fun _ _ => trivial
  | chroot path => cases hRequest
  | configure config => cases hRequest
  | opendir path =>
    rw [Dialogue.every_bind]
    refine Dialogue.Every.mono (every_opendir_calls hs hNormal path) fun result _ => ?_
    cases result <;> exact trivial
  | readdir handle =>
    rw [Dialogue.every_bind]
    exact (every_readdir s handle).mono fun _ _ => trivial
  | entries handle =>
    rw [Dialogue.every_bind]
    exact (every_entries s handle).mono fun _ _ => trivial
  | readDir path =>
    rw [Dialogue.every_bind]
    exact (every_readDir_calls hs hNormal path).mono fun _ _ => trivial
  | installAliases aliases =>
    rw [Dialogue.every_bind]
    refine (every_installAliases (P := fun s => s.resolver.Canonical) hs.canonical aliases
      fun s source destination h => ?_).mono fun _ _ => trivial
    exact h.addAlias source destination
  | setPhase phase => exact trivial
  | teardown => exact trivial
  | _ =>
    refine every_observe (every_target_bind hs hNormal _ fun real hReal => ?_) fun _ => trivial
    exact Attempt.every_ask.mpr ⟨allows_one rfl hReal, fun _ => trivial⟩

/--
**A session is contained.** In every session that comes about, with a base and while it serves its
client, and for every request that does not set another base: whatever the host answers, each path
of each call is tidy, and lies below the base, or at the real path of an alias or below it. Deleting
a file is contained in every phase.
-/
theorem calls_contained (hReach : s.Reachable) {base : Text} (hBase : s.resolver.base = some base)
    {request : Request} (hPhase : s.phase = .normal ∨ ∃ path, request = .unlink path)
    (hRequest : request.setsBase = false) {call : Call}
    (hCall : (s.perform request).Asks call) {path : Text} (hPath : path ∈ call.paths) :
    Tidy path ∧
      (Beneath base path ∨
        ∃ entry ∈ s.resolver.aliases.entries, path = entry.2 ∨ Beneath entry.2 path) := by
  have hs : s.Confined := ⟨hReach.resolver.canonical, by rw [hBase]; rfl⟩
  have hPhase' := hPhase.imp_left (bypasses_eq_false hs)
  obtain ⟨hTidy, hPlace⟩ := (every_perform_calls hs hPhase' hRequest).asks hCall path hPath
  refine ⟨hTidy, hPlace.imp_left ?_⟩
  rintro ⟨base', hBase', hBeneath⟩
  rw [hBase] at hBase'
  obtain rfl := Option.some.inj hBase'
  exact hBeneath

/-- A session with the base `/store`. -/
def storeSession : Session where
  resolver := { base := some "/store".toList }
  chrootPath := some ['/']

/-- The session comes about by one request. -/
theorem reachable_storeSession : storeSession.Reachable := by
  have hBase : Session.new.resolver.setBase "/store".toList = .ok storeSession.resolver :=
    Resolver.setBase_eq_ok_iff.mpr
      ⟨rfl, by rw [Path.clean_eq_normal]; decide, by rw [Path.clean_eq_normal]; rfl⟩
  have hInstalled : (Session.new.resolver.installBase "/store".toList).run.Ends
      (.ok storeSession.resolver) := by
    rw [Resolver.installBase, hBase]
    exact Attempt.ends_bind (.done _) (.note (.done _))
  have hChroot : (Session.new.chroot "/store".toList).run.Ends (.ok storeSession) := by
    refine Attempt.ends_bind (a := (['/'], "/store".toList)) (.done _) ?_
    refine Attempt.ends_bind hInstalled ?_
    exact .note (.done _)
  exact .perform (.chroot "/store".toList) .new (hChroot.bind (.done _))

/-- Without aliases a lookup comes to the place of the path. -/
theorem lookup_storeSession {path real : Text}
    (hReal : storeSession.resolver.placement path = .ok real) :
    storeSession.resolver.lookup false path true = .ok ⟨real, none⟩ := by
  obtain ⟨names, hNames⟩ := reachable_storeSession.resolver.baseNames
  have hConfine := (Resolver.confine_eq_placement hNames path).trans hReal
  have hCrossing : storeSession.resolver.crossing? real = none :=
    (Resolver.crossing?_eq_none_iff reachable_storeSession.resolver.canonical
      (Resolver.tidy_of_confine hNames hConfine)).mpr nofun
  rw [Resolver.lookup_true_of_confine hConfine, hCrossing]

/-- A link in the base to `/etc`: it is `/etc` below the base that the walk goes on with. -/
theorem calls_contained_store :
    storeSession.Reachable ∧
      (storeSession.perform (.opendir "/link".toList)).Asks (.lstat "/store/etc".toList) ∧
      Tidy "/store/etc".toList ∧
      (Beneath "/store".toList "/store/etc".toList ∨
        ∃ entry ∈ storeSession.resolver.aliases.entries,
          "/store/etc".toList = entry.2 ∨ Beneath entry.2 "/store/etc".toList) := by
  have hNormalized : storeSession.normalized "/link".toList = .ok "/link".toList := by
    rw [normalized, Path.clean_eq_normal]
    rfl
  have hVirtual : (Attempt.ofExcept (storeSession.normalized "/link".toList)).run.Ends
      (.ok "/link".toList) := by
    rw [hNormalized]
    exact .done _
  have hLink : storeSession.resolver.lookup false "/link".toList true =
      .ok ⟨"/store/link".toList, none⟩ := by
    apply lookup_storeSession
    rw [Resolver.placement, Path.clean_eq_normal]
    rfl
  have hTarget : storeSession.resolver.lookup false "/etc".toList true =
      .ok ⟨"/store/etc".toList, none⟩ := by
    apply lookup_storeSession
    rw [Resolver.placement, Path.clean_eq_normal]
    rfl
  have hWalk : (storeSession.followLinks (31 + 1) "/store/link".toList).run.Asks
      (.lstat "/store/etc".toList) := by
    rw [followLinks]
    refine Attempt.asks_bind
      (Attempt.ends_reply (.lstat _) (.ok ⟨.symlink, 4, 0o777, 0, 0, 0, 0⟩)) ?_
    refine Attempt.asks_bind (Attempt.ends_ask (.readLink _) (.text "/etc".toList)) ?_
    refine Attempt.asks_bind (Attempt.ends_note _) ?_
    refine Attempt.asks_bind (Resolver.ends_find hTarget) ?_
    rw [followLinks]
    exact .here (.lstat "/store/etc".toList) _
  have hCall : (storeSession.perform (.opendir "/link".toList)).Asks
      (.lstat "/store/etc".toList) := by
    refine Dialogue.Asks.bind ?_
    refine Attempt.asks_bind hVirtual ?_
    refine Attempt.asks_bind (Resolver.ends_find hLink) ?_
    exact Dialogue.Asks.bind hWalk
  exact ⟨reachable_storeSession, hCall,
    calls_contained reachable_storeSession rfl (Or.inl rfl) rfl hCall List.mem_cons_self⟩

end Session

end PathJail
