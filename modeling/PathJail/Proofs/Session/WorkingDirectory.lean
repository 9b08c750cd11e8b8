import PathJail.Proofs.Resolver.Entries
import PathJail.Proofs.Session.Deletion

/-!
# Where the working directory is

A change of the working directory moves the host, and keeps what a lookup of `.` is to begin with:
the path that the requested one was placed at, as seen from the base. That path is placed where it
came from again, with one exception. A lookup takes a base off the path that it is given, so where
what is kept begins with the base once more, `.` is placed at what is kept, not below the base.

* `confine_seen_from_base`    — where a path is placed that was put behind the base before.
* `yields_target_dot`         — a request for `.` goes where the working directory leads.
* `chdir_tracked`             — what a change of the working directory leaves of `.`.
-/

namespace PathJail

open PathJail.Path (Tidy Trimmed isAbsolute clean)

-- ---------------------------------------------------------------------------
-- Trimmed paths under the base
-- ---------------------------------------------------------------------------

namespace Resolver

variable {r : Resolver} {names : List Text}

/-- A path that was put behind the base, looked up: it is placed there again, unless it begins with
the base itself. Then it is placed where it is. -/
theorem confine_seen_from_base (h : BaseNames r names) {t : Text} (ht : Trimmed t)
    (hShort : Text.byteLength t < r.limits.maxPathLength)
    (hRoom : t = ['/'] ∨
      Text.byteLength r.baseRoot + Text.byteLength t < r.limits.maxPathLength) :
    r.confine false t =
      .ok (if 1 < Text.byteLength r.baseText ∧ r.baseText ++ ['/'] <+: t then t
        else r.baseRoot ++ t.tail) := by
  have hSource : r.source t = t := source_of_absolute ht.tidy.absolute
  rw [confine_trimmed_iff h (hSource.symm ▸ ht), hSource, withoutBase_eq h]
  refine ⟨hShort, ?_⟩
  by_cases hBelow : 1 < Text.byteLength r.baseText ∧ r.baseText ++ ['/'] <+: t
  · rw [if_pos hBelow, if_pos hBelow]
    obtain ⟨hNarrow, tail, rfl⟩ := hBelow
    have hRoot : r.baseRoot = r.baseText ++ ['/'] := by
      rw [h.root, h.text (h.bytes.mp hNarrow)]
    rw [hRoot] at hRoom ⊢
    rw [List.append_assoc, List.drop_left, List.append_assoc]
    refine ⟨Or.inr ?_, rfl⟩
    simp only [Text.byteLength_append] at hRoom ⊢
    rcases hRoom with hTop | hRoom
    · have hBytes := congrArg Text.byteLength hTop
      simp only [Text.byteLength_append] at hBytes
      omega
    · omega
  · rw [if_neg hBelow, if_neg hBelow]
    exact ⟨hRoom, rfl⟩

/-- A trimmed path is kept as it is, if it fits the limit. -/
theorem setCwd_trimmed_iff {r' : Resolver} {cwd : Text} (hCwd : Trimmed cwd) :
    r.setCwd cwd = .ok r' ↔
      Text.byteLength cwd < r.limits.maxPathLength ∧ { r with cwd := cwd } = r' := by
  rw [setCwd_eq_ok_iff, Path.clean_of_tidy hCwd.tidy, Path.trimSlash_of_trimmed hCwd]
  exact and_iff_right hCwd.tidy.absolute

/-- Seen through an alias or not, a lookup tells where the path was placed. -/
theorem virtual_getD_of_lookup {raised : Bool} {path placed : Text} {resolved : Resolved}
    (hPlaced : r.confine raised path = .ok placed)
    (hLookup : r.lookup raised path true = .ok resolved) :
    resolved.virtual.getD resolved.real = placed := by
  rw [lookup_true_of_confine hPlaced] at hLookup
  cases hCrossing : r.crossing? placed with
  | none =>
    rw [hCrossing] at hLookup
    rw [← Except.ok.inj hLookup]
    rfl
  | some real =>
    rw [hCrossing] at hLookup
    simp only at hLookup
    split at hLookup
    · cases hLookup
    · rw [← Except.ok.inj hLookup]
      rfl

end Resolver

-- ---------------------------------------------------------------------------
-- Changes of the working directory
-- ---------------------------------------------------------------------------

namespace Session

open Resolver (BaseNames)

variable {s next : Session} {σ : Type} {host : Host σ} {state : σ} {calls : List Call}
variable {names : List Text}

/-- What became of a change that succeeded: the path, as seen from the base, is the working
directory now. -/
theorem chdir_yields_ok (hs : s.Confined) (hNormal : s.bypasses = false)
    (hNames : BaseNames s.resolver names) {path : Text}
    (h : (s.chdir path).Yields host state (.ok next) calls) :
    ∃ virtual resolved t, s.normalized path = .ok virtual ∧
      t = s.resolver.withoutBase (s.resolver.source virtual) ∧ Trimmed t ∧
      s.resolver.confine false virtual = .ok (s.resolver.baseRoot ++ t.tail) ∧
      s.resolver.lookup false virtual true = .ok resolved ∧
      calls = [.chdir resolved.real] ∧ Text.byteLength t < s.resolver.limits.maxPathLength ∧
      next = { s with resolver := { s.resolver with cwd := t } } := by
  unfold chdir at h
  rw [hNormal, if_neg Bool.false_ne_true] at h
  obtain ⟨virtual, hVirtual, hLooked⟩ := Attempt.yields_ofExcept_bind.mp h
  obtain ⟨resolved, hLookup, hAsked⟩ := Resolver.yields_find_bind.mp hLooked
  obtain ⟨-, rest, -, hKept, rfl⟩ := Attempt.yields_ask_bind.mp hAsked
  obtain ⟨resolver, hCwd, hNoted⟩ := Attempt.yields_ofExcept_bind.mp hKept
  rw [Attempt.yields_note_bind] at hNoted
  obtain ⟨hNext, rfl⟩ := (Attempt.yields_pure _).mp hNoted
  rw [Resolver.raised_of_lookup hLookup] at hLookup
  obtain ⟨placed, hPlaced⟩ := Resolver.exists_confine_of_lookup hLookup
  have hSource := trimmed_source_normalized hs hVirtual
  have hTrimmed := Resolver.trimmed_withoutBase hNames hSource
  obtain ⟨-, -, rfl⟩ := (Resolver.confine_trimmed_iff hNames hSource).mp hPlaced
  -- what is kept is what was put behind the base
  rw [Resolver.virtual_getD_of_lookup hPlaced hLookup,
    Resolver.stripBase_baseRoot_append hNames hTrimmed.tidy.absolute,
    Resolver.setCwd_trimmed_iff hTrimmed] at hCwd
  obtain ⟨hFits, rfl⟩ := hCwd
  exact ⟨virtual, resolved, _, hVirtual, rfl, hTrimmed, hPlaced, hLookup, rfl, hFits,
    Except.ok.inj hNext⟩

/-- The target of `.` is what the working directory is looked up as. -/
theorem yields_target_dot (hs : s.Confined) (hNormal : s.bypasses = false)
    (hRaised : host.raised state = false) {resolved : Resolved}
    (hLookup : s.resolver.lookup false s.resolver.cwd true = .ok resolved) :
    (s.target ['.']).Yields host state (.ok resolved.real) [] := by
  have hHere : s.resolver.realpath ['.'] true = s.resolver.cwd :=
    Path.trimSlash_clean_append_dot hs.canonical.cwd
  rw [target, hNormal, if_neg Bool.false_ne_true, resolve, if_neg (List.cons_ne_nil _ _), hHere]
  rw [← hRaised] at hLookup
  exact Resolver.yields_find_bind.mpr ⟨resolved, hLookup, (Attempt.yields_pure _).mpr ⟨rfl, rfl⟩⟩

/-- What a request for `.` asks the host for. -/
theorem calls_dot (hs : s.Confined) (hNormal : s.bypasses = false)
    (hRaised : host.raised state = false) {resolved : Resolved}
    (hLookup : s.resolver.lookup false s.resolver.cwd true = .ok resolved) :
    ((s.perform (.stat ['.'])).run host state).calls = [.stat resolved.real] ∧
      ((s.perform (.openFile ['.'])).run host state).calls = [.openFile resolved.real] := by
  have hTarget := yields_target_dot hs hNormal hRaised hLookup
  constructor
  · exact (yields_observe
      (hTarget.then (Attempt.yields_ask (.stat resolved.real) host state))).calls
  · exact (yields_observe
      (hTarget.then (Attempt.yields_ask (.openFile resolved.real) host state))).calls

/-- The place of `.` is that of the working directory. -/
theorem unaliased_dot (hs : s.Confined) (raised : Bool) :
    s.unaliased raised ['.'] = s.resolver.confine raised s.resolver.cwd := by
  have hDot : s.normalized ['.'] = .ok ['.'] := by
    rw [normalized, Path.clean_eq_normal]
    rfl
  have hCwd := hs.canonical.cwd.tidy.absolute
  have hNonempty : s.resolver.cwd ≠ [] := by
    intro hEmpty
    rw [hEmpty] at hCwd
    cases hCwd
  have hSource : s.resolver.source ['.'] = s.resolver.cwd := if_pos rfl
  rw [unaliased_of_normalized hDot, Resolver.confine_eq, Resolver.confine_eq, hSource,
    Resolver.source_of_absolute hCwd, if_neg (List.cons_ne_nil _ _), if_neg hNonempty]

/-- The working directory is changed, and nothing else. -/
theorem confined_with_cwd (hs : s.Confined) {t : Text} (ht : Trimmed t) :
    Confined { s with resolver := { s.resolver with cwd := t } } where
  canonical := { hs.canonical with cwd := ht }
  base := hs.base

/--
**Where `.` is after a change of the working directory.** In a session that comes about, with a base
and while it serves its client, the working directory was changed. The one call moved the host to
`real`, and the requested path was placed below the base at what is the working directory now. So
`.` is `real`, as long as the interrupt flag is down. The exception is a working directory that
begins with the base itself: there `.` is placed at the text of the working directory, without the
base in front of it.
-/
theorem chdir_tracked (hReach : s.Reachable) {base : Text} (hBase : s.resolver.base = some base)
    (hPhase : s.phase = .normal) {path : Text} (host : Host σ) (state : σ)
    (hChanged : ((s.perform (.chdir path)).run host state).value = (.ok .done, next)) :
    ∃ real, ((s.perform (.chdir path)).run host state).calls = [.chdir real] ∧
      s.unaliased false path = .ok (s.resolver.baseRoot ++ next.resolver.cwd.tail) ∧
      if base ≠ ['/'] ∧ base ++ ['/'] <+: next.resolver.cwd then
        next.unaliased false ['.'] = .ok next.resolver.cwd
      else ∀ later : σ, host.raised later = false →
        ((next.perform (.stat ['.'])).run host later).calls = [.stat real] ∧
          ((next.perform (.openFile ['.'])).run host later).calls = [.openFile real] := by
  have hs : s.Confined := ⟨hReach.resolver.canonical, by rw [hBase]; rfl⟩
  have hNormal := bypasses_eq_false hs hPhase
  obtain ⟨names, hNames⟩ := hReach.resolver.baseNames
  have hRun := Dialogue.yields_run (s.perform (.chdir path)) host state
  rw [hChanged] at hRun
  obtain ⟨virtual, resolved, t, hVirtual, hSeen, ht, hPlaced, hLookup, hCalls, hShort, hNext⟩ :=
    chdir_yields_ok hs hNormal hNames (advance_yields_ok hRun)
  obtain ⟨-, hRoom, -⟩ :=
    (Resolver.confine_trimmed_iff hNames (trimmed_source_normalized hs hVirtual)).mp hPlaced
  rw [← hSeen] at hRoom
  obtain rfl := hNext
  have hThere := confined_with_cwd hs ht
  have hNames' : BaseNames { s.resolver with cwd := t } names := { hNames with }
  have hAgain := Resolver.confine_seen_from_base hNames' ht hShort hRoom
  have hText := Resolver.baseText_eq hBase
  have hBytes := Resolver.one_lt_byteLength_iff (hs.canonical.base base hBase)
  rw [← hText] at hBytes ⊢
  refine ⟨resolved.real, hCalls, ?_, ?_⟩
  · rw [unaliased_of_normalized hVirtual, hPlaced]
  by_cases hBelow : s.resolver.baseText ≠ ['/'] ∧ s.resolver.baseText ++ ['/'] <+: t
  · rw [if_pos hBelow, unaliased_dot hThere]
    rw [if_pos ⟨hBytes.mpr hBelow.1, hBelow.2⟩] at hAgain
    exact hAgain
  · rw [if_neg hBelow]
    rw [if_neg fun h => hBelow ⟨hBytes.mp h.1, h.2⟩] at hAgain
    intro later hLater
    refine calls_dot hThere hNormal hLater ?_
    -- both lookups go on from the same place
    rw [Resolver.lookup_true_of_confine hAgain]
    rw [Resolver.lookup_true_of_confine hPlaced] at hLookup
    exact hLookup

/-- A change that nothing speaks against. -/
theorem yields_perform_chdir (hNormal : s.bypasses = false) {path virtual : Text}
    {resolved : Resolved} {resolver : Resolver} (hVirtual : s.normalized path = .ok virtual)
    (hLookup : s.resolver.lookup false virtual true = .ok resolved)
    (hRaised : host.raised state = false)
    (hMoved : (host.answer (.chdir resolved.real) state).1 = .ok ())
    (hCwd : s.resolver.setCwd (s.resolver.stripBase (resolved.virtual.getD resolved.real)) =
      .ok resolver) :
    (s.perform (.chdir path)).Yields host state (.ok .done, { s with resolver := resolver })
      [.chdir resolved.real] := by
  have hChdir : (s.chdir path).Yields host state (.ok { s with resolver := resolver })
      [.chdir resolved.real] := by
    unfold chdir
    rw [hNormal, if_neg Bool.false_ne_true]
    refine Attempt.yields_ofExcept_bind.mpr ⟨_, hVirtual, ?_⟩
    refine Resolver.yields_find_bind.mpr ⟨_, hRaised ▸ hLookup, ?_⟩
    refine Attempt.yields_ask_bind.mpr ⟨(), [], hMoved, ?_, rfl⟩
    refine Attempt.yields_ofExcept_bind.mpr ⟨_, hCwd, ?_⟩
    exact Attempt.yields_note_bind.mpr ((Attempt.yields_pure _).mpr ⟨rfl, rfl⟩)
  exact Dialogue.Yields.bind hChdir (Dialogue.yields_done.mpr ⟨rfl, rfl⟩)

/-- The session `pubSession` in a directory below its alias. -/
def insidePub : Session where
  resolver := { Resolver.pubStore with cwd := "/pub/a".toList }
  chrootPath := some ['/']

/-- Behind the alias, `.` is the place where the host went. -/
theorem chdir_tracked_pub :
    pubSession.Reachable ∧
      ((pubSession.perform (.chdir "pub/a".toList)).run (({} : FixedHost).toHost) false).value =
        (.ok .done, insidePub) ∧
      ((insidePub.perform (.stat ['.'])).run (({} : FixedHost).toHost) false).calls =
        [.stat "/var/pub/a".toList] := by
  obtain ⟨names, hNames⟩ := reachable_pubSession.resolver.baseNames
  have hVirtual : pubSession.normalized "pub/a".toList = .ok "/pub/a".toList := by
    rw [normalized, Path.clean_eq_normal]
    rfl
  have hPlaced : pubSession.resolver.confine false "/pub/a".toList =
      .ok "/store/pub/a".toList := by
    rw [Resolver.confine_eq_placement hNames, Resolver.placement, Path.clean_eq_normal]
    rfl
  have hLookup : pubSession.resolver.lookup false "/pub/a".toList true =
      .ok ⟨"/var/pub/a".toList, some "/store/pub/a".toList⟩ := by
    rw [Resolver.lookup_true_of_confine hPlaced]
    rfl
  have hCwd : pubSession.resolver.setCwd "/pub/a".toList = .ok insidePub.resolver :=
    Resolver.setCwd_eq_ok_iff.mpr
      ⟨rfl, by rw [Path.clean_eq_normal]; decide, by rw [Path.clean_eq_normal]; rfl⟩
  have hRun : (pubSession.perform (.chdir "pub/a".toList)).Yields (({} : FixedHost).toHost) false
      (.ok .done, insidePub) [.chdir "/var/pub/a".toList] := by
    exact yields_perform_chdir rfl hVirtual hLookup rfl rfl hCwd
  refine ⟨reachable_pubSession, hRun.value, ?_⟩
  obtain ⟨real, hCalls, -, hDot⟩ := chdir_tracked reachable_pubSession rfl rfl _ false hRun.value
  obtain rfl := Call.chdir.inj (List.singleton_inj.mp (hRun.calls.symm.trans hCalls))
  exact ((if_neg (by decide)).mp hDot false rfl).1

/-- The session `storeSession` in a directory that is called as the base is. -/
def insideStore : Session where
  resolver := { base := some "/store".toList, cwd := "/store/x".toList }
  chrootPath := some ['/']

/-- The host is moved to one directory, and `.` is another one. -/
theorem dot_apart_from_directory :
    storeSession.Reachable ∧
      ((storeSession.perform (.chdir "/store/store/x".toList)).run
        (({} : FixedHost).toHost) false).value = (.ok .done, insideStore) ∧
      ((storeSession.perform (.chdir "/store/store/x".toList)).run
        (({} : FixedHost).toHost) false).calls = [.chdir "/store/store/x".toList] ∧
      ((insideStore.perform (.openFile ['.'])).run (({} : FixedHost).toHost) false).calls =
        [.openFile "/store/x".toList] := by
  obtain ⟨names, hNames⟩ := reachable_storeSession.resolver.baseNames
  have hVirtual : storeSession.normalized "/store/store/x".toList =
      .ok "/store/store/x".toList := by
    rw [normalized, Path.clean_eq_normal]
    rfl
  have hLookup : storeSession.resolver.lookup false "/store/store/x".toList true =
      .ok ⟨"/store/store/x".toList, none⟩ := by
    apply lookup_storeSession
    rw [Resolver.placement, Path.clean_eq_normal]
    rfl
  have hCwd : storeSession.resolver.setCwd "/store/x".toList = .ok insideStore.resolver :=
    Resolver.setCwd_eq_ok_iff.mpr
      ⟨rfl, by rw [Path.clean_eq_normal]; decide, by rw [Path.clean_eq_normal]; rfl⟩
  have hRun : (storeSession.perform (.chdir "/store/store/x".toList)).Yields
      (({} : FixedHost).toHost) false (.ok .done, insideStore)
      [.chdir "/store/store/x".toList] := by
    exact yields_perform_chdir rfl hVirtual hLookup rfl rfl hCwd
  have hReach : insideStore.Reachable := .perform _ reachable_storeSession hRun.ends
  have hInside : insideStore.Confined := ⟨hReach.resolver.canonical, rfl⟩
  have hNames' : BaseNames insideStore.resolver names := { hNames with }
  have hPlaced : insideStore.resolver.confine false "/store/x".toList =
      .ok "/store/x".toList := by
    rw [Resolver.confine_eq_placement hNames', Resolver.placement, Path.clean_eq_normal]
    rfl
  have hDot : insideStore.resolver.lookup false insideStore.resolver.cwd true =
      .ok ⟨"/store/x".toList, none⟩ := by
    have hNone : insideStore.resolver.crossing? "/store/x".toList = none := rfl
    exact (Resolver.lookup_true_of_confine hPlaced).trans (by rw [hNone])
  exact ⟨reachable_storeSession, hRun.value, hRun.calls, (calls_dot hInside rfl rfl hDot).2⟩

end Session

end PathJail
