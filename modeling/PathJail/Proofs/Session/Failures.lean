import PathJail.Proofs.Resolver.Length
import PathJail.Proofs.Session.Translation
import PathJail.Proofs.Session.WorkingDirectory

/-!
# What a failed request leaves

A request to move, to open or to close changes the session in its last step, so where it fails the
session is what it was. Two requests have something left to do that could fail behind a step that
they cannot take back: a listing has opened a directory and is to close it again, whatever its reads
came to, and a change of the working directory has moved the host and is to keep where. In both of
them what is left to do cannot fail.

* `eq_of_moves_error`      — requests to move, to open and to close.
* `setCwd_of_lookup`       — the place that a lookup came to can be kept as working directory.
* `failures_leave_session` — these and listings, which close what they opened.
-/

namespace PathJail

/-- The request goes to another directory, or opens or closes one. -/
def Request.moves : Request → Bool
  | .chdir _ | .opendir _ | .closedir _ => true
  | _ => false

namespace Session

variable {σ : Type} {host : Host σ} {state : σ}
variable {s opened read next : Session} {path : Text} {handle : DirHandle} {e : Error}

-- ---------------------------------------------------------------------------
-- Requests that change the session in the last step
-- ---------------------------------------------------------------------------

/-- A request that fails to change the session leaves it as it is. -/
theorem eq_of_advance_error {attempt : Attempt Session}
    (h : (s.advance attempt).Ends (.error e, next)) : next = s := by
  have hEvery : (s.advance attempt).Every (fun _ => True) fun outcome =>
      ∀ e, outcome.1 = .error e → outcome.2 = s :=
    every_advance (Attempt.every_true _) (fun _ _ _ => rfl) fun _ _ _ hFailed => nomatch hFailed
  exact hEvery.ends h e rfl

theorem eq_of_moves_error {request : Request} (hMoves : request.moves = true)
    (h : (s.perform request).Ends (.error e, next)) : next = s := by
  cases request with
  | chdir | closedir => exact eq_of_advance_error h
  | opendir path =>
    have hEvery : (s.perform (.opendir path)).Every (fun _ => True) fun outcome =>
        ∀ e, outcome.1 = .error e → outcome.2 = s := by
      rw [perform, Dialogue.every_bind]
      refine (Dialogue.every_true _).mono fun result _ => ?_
      cases result with
      | error e => exact fun _ _ => rfl
      | ok opened => rintro e ⟨⟩
    exact hEvery.ends h e rfl
  | _ => cases hMoves

-- ---------------------------------------------------------------------------
-- Changes of the working directory
-- ---------------------------------------------------------------------------

/-- **The place that a lookup came to can be kept as working directory.** What is kept is what was
put behind the base. That is the root, and there was room for it; or it fitted behind the base, and
is shorter alone. It does not matter whether the lookup led through an alias, nor that the base with
its slash is not held against the limit. -/
theorem setCwd_of_lookup (hs : s.Confined) {virtual : Text} {resolved : Resolved}
    (hVirtual : s.normalized path = .ok virtual)
    (hLookup : s.resolver.lookup false virtual true = .ok resolved) :
    ∃ placed, s.unaliased false path = .ok placed ∧
      s.resolver.setCwd (s.resolver.stripBase (resolved.virtual.getD resolved.real)) =
        .ok { s.resolver with cwd := s.resolver.stripBase placed } := by
  obtain ⟨names, hNames⟩ := hs.canonical.baseNames
  obtain ⟨placed, hPlaced⟩ := Resolver.exists_confine_of_lookup hLookup
  have hSource := trimmed_source_normalized hs hVirtual
  have hTrimmed := Resolver.trimmed_withoutBase hNames hSource
  have hLimit := Resolver.one_lt_limit_of_confine hs.canonical hPlaced
  obtain ⟨-, hRoom, hPlace⟩ := (Resolver.confine_trimmed_iff hNames hSource).mp hPlaced
  generalize s.resolver.withoutBase (s.resolver.source virtual) = kept at hTrimmed hRoom hPlace
  have hSeen : s.resolver.stripBase placed = kept := by
    rw [hPlace, Resolver.stripBase_baseRoot_append hNames hTrimmed.tidy.absolute]
  have hFits : Text.byteLength kept < s.resolver.limits.maxPathLength := by
    rcases hRoom with rfl | hRoom
    · exact hLimit
    · omega
  refine ⟨placed, by rw [unaliased_of_normalized hVirtual, hPlaced], ?_⟩
  rw [Resolver.virtual_getD_of_lookup hPlaced hLookup, hSeen]
  exact (Resolver.setCwd_trimmed_iff hTrimmed).mpr ⟨hFits, rfl⟩

/-- A session that comes about and translates paths is confined. -/
theorem Reachable.confined (h : s.Reachable) (hNormal : s.bypasses = false) : s.Confined where
  canonical := h.resolver.canonical
  base := by
    rw [bypasses, Bool.or_eq_false_iff, Bool.not_eq_eq_eq_not] at hNormal
    exact hNormal.1

/-- The host is moved to the translation of the path, if it has one. -/
theorem calls_chdir (hNormal : s.bypasses = false) (path : Text) (host : Host σ) (state : σ) :
    ((s.perform (.chdir path)).run host state).calls =
      match s.translated (host.raised state) path with
      | .error _ => []
      | .ok real => [.chdir real] := by
  have hSettled : s.Settles (s.perform (.chdir path)) host state
      ([path].mapM (s.translated (host.raised state))) (Request.chdir path).HandsOn :=
    settles_advance (follows_chdir hNormal path)
  rw [List.mapM_cons] at hSettled
  cases hStart : s.translated (host.raised state) path with
  | error e =>
    rw [hStart] at hSettled
    exact (hSettled.fails e rfl).2
  | ok real =>
    rw [hStart] at hSettled
    exact hSettled.calls [real] rfl

/-- A change for which the host was moved. -/
theorem chdir_of_moved (hs : s.Confined) (hNormal : s.bypasses = false) {real : Text}
    (hAsked : .chdir real ∈ ((s.perform (.chdir path)).run host state).calls)
    (hMoved : (host.answer (.chdir real) state).1 = .ok ()) :
    ∃ placed, s.unaliased false path = .ok placed ∧ s.translated false path = .ok real ∧
      (s.perform (.chdir path)).Yields host state
        (.ok .done,
          { s with resolver := { s.resolver with cwd := s.resolver.stripBase placed } })
        [.chdir real] := by
  rw [calls_chdir hNormal] at hAsked
  cases hStart : s.translated (host.raised state) path with
  | error e =>
    rw [hStart] at hAsked
    cases hAsked
  | ok start =>
    rw [hStart] at hAsked
    obtain rfl := Call.chdir.inj (List.mem_singleton.mp hAsked)
    obtain ⟨virtual, resolved, hVirtual, hLookup, rfl⟩ := exists_lookup_of_translated hStart
    have hDown := Resolver.raised_of_lookup hLookup
    rw [hDown] at hLookup hStart
    obtain ⟨placed, hPlaced, hCwd⟩ := setCwd_of_lookup hs hVirtual hLookup
    exact ⟨placed, hPlaced, hStart,
      yields_perform_chdir hNormal hVirtual hLookup hDown hMoved hCwd⟩

/--
**Failed requests leave the session as it was.** In every session that comes about, whatever the
host answers:

* Where a change of the working directory, an opening or a closing fails, the session is what it
  was.
* A listing, failed or not, leaves no more than one opening to count: the directories that are open,
  with what is left of each, and all else are what they were. If it could open the directory, it can
  close it, whatever the reads came to.
* If the session has a base and serves its client, and the host was moved for a change of the
  working directory, then the change succeeds. The host is at the real path of the requested one,
  and the working directory is the place of the same path, seen from the base.
-/
theorem failures_leave_session (hReach : s.Reachable) (host : Host σ) (state : σ) :
    (∀ request e next, request.moves = true → (s.perform request).Ends (.error e, next) →
      next = s) ∧
    (∀ path outcome next, (s.perform (.readDir path)).Ends (outcome, next) →
      next = s ∨ next = s.counted) ∧
    (∀ path handle opened outcome read result, (s.opendir path).run.Ends (.ok (handle, opened)) →
      (opened.entries handle).Ends (outcome, read) → (read.closedir handle).run.Ends result →
        result = .ok s.counted) ∧
    ∀ path real, s.bypasses = false →
      .chdir real ∈ ((s.perform (.chdir path)).run host state).calls →
      (host.answer (.chdir real) state).1 = .ok () →
      ∃ placed, s.unaliased false path = .ok placed ∧ s.translated false path = .ok real ∧
        (s.perform (.chdir path)).Yields host state
          (.ok .done,
            { s with resolver := { s.resolver with cwd := s.resolver.stripBase placed } })
          [.chdir real] := by
  refine ⟨fun request e next hMoves h => eq_of_moves_error hMoves h, ?_, ?_, ?_⟩
  · intro path outcome next h
    have hEvery : (s.perform (.readDir path)).Every (fun _ => True) fun outcome =>
        outcome.2 = s ∨ outcome.2 = s.counted := by
      rw [perform, Dialogue.every_bind]
      exact (every_readDir_counted s path).mono fun _ => id
    exact hEvery.ends h
  · intro path handle opened outcome read result hOpened hRead hClosed
    exact closedir_of_listing hOpened hRead hClosed
  · intro path real hNormal hAsked hMoved
    exact chdir_of_moved (hReach.confined hNormal) hNormal hAsked hMoved

/-- A session with the base `/store` under a limit that the base just meets. -/
def fullSession : Session where
  resolver := Resolver.fullStore
  chrootPath := some ['/']

/-- The session comes about by one request. -/
theorem reachable_fullSession : fullSession.Reachable := by
  have hInstalled : (Resolver.installBase { limits := ⟨7, 32⟩ } "/store/".toList).run.Ends
      (.ok Resolver.fullStore) := by
    rw [Resolver.installBase, Resolver.setBase_fullStore]
    exact Attempt.ends_bind (.done _) (.note (.done _))
  have hChroot : (chroot { resolver := { limits := ⟨7, 32⟩ } } "/store/".toList).run.Ends
      (.ok fullSession) := by
    refine Attempt.ends_bind (a := (['/'], "/store/".toList)) (.done _) ?_
    refine Attempt.ends_bind hInstalled ?_
    exact .note (.done _)
  exact .perform (.chroot "/store/".toList) (.withLimits ⟨7, 32⟩ .new) (hChroot.bind (.done _))

/-- The host is moved to a path as long as the limit, and what is kept is shorter. -/
theorem failures_leave_session_full :
    fullSession.Reachable ∧
      ((fullSession.perform (.chdir ['/'])).run (({} : FixedHost).toHost) false).calls =
        [.chdir "/store/".toList] ∧
      ((fullSession.perform (.chdir ['/'])).run (({} : FixedHost).toHost) false).value =
        (.ok .done, fullSession) := by
  have hVirtual : fullSession.normalized ['/'] = .ok ['/'] := by
    rw [normalized, Path.clean_eq_normal]
    rfl
  have hPlaced : fullSession.resolver.confine false ['/'] = .ok "/store/".toList :=
    Resolver.confine_slash Resolver.reachable_fullStore.canonical (by decide)
  have hUnaliased : fullSession.unaliased false ['/'] = .ok "/store/".toList := by
    rw [unaliased_of_normalized hVirtual, hPlaced]
  have hReal : fullSession.translated false ['/'] = .ok "/store/".toList := by
    rw [translated_of_normalized hVirtual, Resolver.lookup_true_of_confine hPlaced]
    rfl
  have hCalls : ((fullSession.perform (.chdir ['/'])).run (({} : FixedHost).toHost) false).calls =
      [.chdir "/store/".toList] := by
    rw [calls_chdir rfl]
    show (match fullSession.translated false ['/'] with
      | .error _ => []
      | .ok real => [Call.chdir real]) = _
    rw [hReal]
  obtain ⟨-, -, -, hMove⟩ :=
    failures_leave_session reachable_fullSession (({} : FixedHost).toHost) false
  obtain ⟨placed, hThere, -, hRun⟩ := hMove ['/'] "/store/".toList rfl (by simp [hCalls]) rfl
  obtain rfl := Except.ok.inj (hUnaliased.symm.trans hThere)
  exact ⟨reachable_fullSession, hCalls, hRun.value⟩

end Session

end PathJail
