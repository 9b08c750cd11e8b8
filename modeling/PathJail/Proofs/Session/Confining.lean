import PathJail.Proofs.Resolver.Entries
import PathJail.Proofs.Session.Translation

/-!
# Confining a session

Of a request to confine a session the host hears when a server root is configured and the text of
the root begins with that of the server root. Then the process is confined first, which nothing can
take back, and the rest of the root is made canonical behind it. So there are two things to ask: what
has happened when the request fails, and where the two parts lead when they are put together again.

* `hosted?`               — the server root, and what a root has behind it.
* `yields_chroot`         — what becomes of a request, by the answer of the host and the limit.
* `Confines`              — the host confined the process.
* `failed_chroot`         — a failure leaves the session as it was; what it leaves of the host.
* `liesWithin_iff_names`  — the server root at a path or above it, by their names.
* `chroot_composes`       — where server root and base lead together.
-/

namespace PathJail

open PathJail.Path (IsName Plain Trimmed bare clean isAbsolute rooted segments settled trimSlashes
  trimmedPath)

variable {σ : Type} {host : Host σ} {state : σ} {calls : List Call}

/-- A path lies at a directory or below it, if it goes on behind the directory's text with nothing
or a slash. -/
theorem Path.below?_eq_some_iff {dir p rest : Text} :
    Path.below? dir p = some rest ↔ p = dir ++ rest ∧ (rest = [] ∨ isAbsolute rest = true) := by
  constructor
  · intro h
    have hRest := Path.isAbsolute_of_below? h
    refine ⟨?_, hRest⟩
    rw [Path.below?] at h
    split at h
    · rename_i hAfter
      rw [← Option.some.inj h]
      exact Text.after?_eq_some_iff.mp hAfter
    · rename_i tail hAfter
      rw [← Option.some.inj h]
      exact Text.after?_eq_some_iff.mp hAfter
    · cases h
  · rintro ⟨rfl, hRest⟩
    rw [Path.below?, Text.after?_eq_some_iff.mpr rfl]
    rcases hRest with rfl | hAbsolute
    · rfl
    · obtain ⟨tail, rfl⟩ := Path.isAbsolute_iff.mp hAbsolute
      rfl

namespace Resolver

/-- A base with a slash in front can only be too long. -/
theorem setBase_of_isAbsolute (r : Resolver) {base : Text} (h : isAbsolute base = true) :
    r.setBase base =
      let length := Text.byteLength (trimSlashes (clean base))
      if r.limits.maxPathLength ≤ length then
        .error (.nameTooLong length r.limits.maxPathLength)
      else .ok { r with base := some (trimSlashes (clean base)) } := by
  have hNonempty : base ≠ [] := by
    rintro rfl
    cases h
  rw [setBase, if_neg hNonempty, h]
  simp only [Bool.not_true, Bool.false_eq_true, if_false, Limits.check]
  split <;> rfl

/-- A base is installed without a call. -/
theorem yields_installBase (r : Resolver) (base : Text) (host : Host σ) (state : σ) :
    (r.installBase base).Yields host state (r.setBase base) [] := by
  rw [installBase]
  cases r.setBase base with
  | error e => exact Attempt.Yields.bind_error ((Attempt.yields_ofExcept _).mpr ⟨rfl, rfl⟩)
  | ok made => exact Attempt.yields_note_bind.mpr ((Attempt.yields_pure _).mpr ⟨rfl, rfl⟩)

end Resolver

namespace Session

variable {s next : Session} {path : Text}

-- ---------------------------------------------------------------------------
-- What becomes of a request
-- ---------------------------------------------------------------------------

/-- The server root that a root lies at or below by its text, and what the root has behind it. -/
def hosted? (s : Session) (path : Text) : Option (Text × Text) := do
  let serverRoot ← s.options.serverRoot
  let rest ← belowServerRoot? serverRoot path
  return (bare serverRoot, rest)

/-- When a path is hosted by the server root, with what is left of both. -/
theorem hosted?_eq_some_iff {root rest : Text} :
    s.hosted? path = some (root, rest) ↔
      ∃ serverRoot, s.options.serverRoot = some serverRoot ∧ bare serverRoot = root ∧ root ≠ [] ∧
        path = root ++ rest ∧ (rest = [] ∨ isAbsolute rest = true) := by
  rw [hosted?, Option.bind_eq_bind, Option.bind_eq_some_iff]
  refine exists_congr fun serverRoot => and_congr_right fun _ => ?_
  rw [Option.bind_eq_some_iff]
  constructor
  · rintro ⟨left, hLeft, hParts⟩
    obtain ⟨rfl, rfl⟩ := Prod.mk.inj (Option.some.inj hParts)
    rw [belowServerRoot?] at hLeft
    split at hLeft
    · cases hLeft
    · rename_i hRoot
      obtain ⟨hPath, hRest⟩ := Path.below?_eq_some_iff.mp hLeft
      exact ⟨rfl, hRoot, hPath, hRest⟩
  · rintro ⟨rfl, hRoot, hPath, hRest⟩
    refine ⟨rest, ?_, rfl⟩
    rw [belowServerRoot?, if_neg hRoot]
    exact Path.below?_eq_some_iff.mpr ⟨hPath, hRest⟩

/-- What the host is asked before the base is installed. -/
def confiningCalls (s : Session) (path : Text) : List Call :=
  ((s.hosted? path).map fun parts => Call.chroot parts.1).toList

/-- Where the process is confined and the base that is left, unless the host refuses. -/
def confinedAt (s : Session) (host : Host σ) (state : σ) (path : Text) :
    Except Error (Text × Text) :=
  match s.hosted? path with
  | none => .ok (['/'], path)
  | some (root, rest) =>
    match (host.answer (.chroot root) state).1 with
    | .error failure => .error (.host failure)
    | .ok () => .ok (root, rest)

/-- **The step that confines the process** makes the one call that there is to make, or none, and
comes to the place that is left for the base. -/
theorem yields_confineProcess (s : Session) (host : Host σ) (state : σ) (path : Text) :
    (s.confineProcess path).Yields host state (s.confinedAt host state path)
      (s.confiningCalls path) := by
  rw [confineProcess, confinedAt, confiningCalls, hosted?]
  cases s.options.serverRoot with
  | none => exact (Attempt.yields_pure _).mpr ⟨rfl, rfl⟩
  | some serverRoot =>
    simp only [Option.bind_eq_bind, Option.bind_some]
    cases belowServerRoot? serverRoot path with
    | none =>
      exact Attempt.yields_note_bind.mpr ((Attempt.yields_pure _).mpr ⟨rfl, rfl⟩)
    | some rest =>
      have hReply := Attempt.yields_reply (.chroot (bare serverRoot)) host state
      dsimp only [Option.bind_some, Option.pure_def]
      rw [Option.map_some, Option.toList_some, ← List.append_nil [Call.chroot (bare serverRoot)]]
      refine hReply.bind ?_
      cases (host.answer (.chroot (bare serverRoot)) state).1 with
      | error failure =>
        exact Attempt.yields_note_bind.mpr ((Attempt.yields_throw _).mpr ⟨rfl, rfl⟩)
      | ok value => exact (Attempt.yields_pure _).mpr ⟨rfl, rfl⟩

/-- The text that a base is made of: nothing left is the root. -/
def baseLeft (base : Text) : Text := if base = [] then ['/'] else base

/-- A base that is absolute is taken as it is. -/
theorem baseLeft_of_isAbsolute {base : Text} (h : isAbsolute base = true) : baseLeft base = base := by
  rw [baseLeft, if_neg]
  rintro rfl
  cases h

/-- A root without a slash in front is refused, and the host hears nothing of it. -/
theorem yields_chroot_relative (s : Session) (hPath : isAbsolute path = false) (host : Host σ)
    (state : σ) : ∃ e, (s.chroot path).Yields host state (.error e) [] := by
  rw [chroot]
  split
  · exact ⟨_, (Attempt.yields_throw _).mpr ⟨rfl, rfl⟩⟩
  · rw [hPath]
    exact ⟨_, (Attempt.yields_throw _).mpr ⟨rfl, rfl⟩⟩

/-- The root of the file system is no base: nothing is done. -/
theorem yields_chroot_root (s : Session) (host : Host σ) (state : σ) :
    (s.chroot ['/']).Yields host state (.ok s) [] :=
  ⟨rfl, rfl⟩

/-- What the session becomes: confined at that place, with the base that is left. -/
def confinedTo (s : Session) (host : Host σ) (state : σ) (path : Text) : Except Error Session := do
  let (chrootPath, base) ← s.confinedAt host state path
  let resolver ← s.resolver.setBase (baseLeft base)
  return { s with resolver := resolver, chrootPath := some chrootPath }

/-- **What becomes of a root other than `/`.** The host is asked first, the base is checked then. -/
theorem yields_chroot (s : Session) (hPath : isAbsolute path = true) (hOther : path ≠ ['/'])
    (host : Host σ) (state : σ) :
    (s.chroot path).Yields host state (s.confinedTo host state path) (s.confiningCalls path) := by
  have hNonempty : path ≠ [] := by
    rintro rfl
    cases hPath
  rw [chroot, if_neg hNonempty, hPath]
  simp only [Bool.not_true, Bool.false_eq_true, if_false, if_neg hOther]
  have hProcess := s.yields_confineProcess host state path
  rw [confinedTo]
  cases hConfined : s.confinedAt host state path with
  | error e =>
    rw [hConfined] at hProcess
    exact hProcess.bind_error
  | ok parts =>
    rw [hConfined] at hProcess
    rw [← List.append_nil (s.confiningCalls path)]
    refine hProcess.bind ?_
    refine Attempt.Yields.silent_bind (s.resolver.yields_installBase _ _ _) fun resolver => ?_
    exact Attempt.yields_note_bind.mpr ((Attempt.yields_pure _).mpr ⟨rfl, rfl⟩)

/-- **The request** makes the calls of the step. If it fails, the session is what it was. -/
theorem yields_perform_chroot (s : Session) (path : Text) (hPath : isAbsolute path = true)
    (hOther : path ≠ ['/']) (host : Host σ) (state : σ) :
    (s.perform (.chroot path)).Yields host state
      ((s.confinedTo host state path).map fun _ => .done,
        (s.confinedTo host state path).toOption.getD s) (s.confiningCalls path) := by
  have hChroot := s.yields_chroot hPath hOther host state
  rw [← List.append_nil (s.confiningCalls path)]
  refine Dialogue.Yields.bind hChroot ?_
  cases s.confinedTo host state path <;> exact Dialogue.yields_done.mpr ⟨rfl, rfl⟩

/-- A success of a root other than `/`: the host did not refuse, and the base is not too long. -/
theorem chroot_yields_ok (hOther : path ≠ ['/'])
    (h : (s.chroot path).Yields host state (.ok next) calls) :
    ∃ chrootPath base, s.confinedAt host state path = .ok (chrootPath, base) ∧
      isAbsolute path = true ∧ calls = s.confiningCalls path ∧
      s.resolver.setBase (baseLeft base) = .ok next.resolver ∧
      next.chrootPath = some chrootPath := by
  cases hPath : isAbsolute path with
  | false =>
    obtain ⟨e, hRefused⟩ := s.yields_chroot_relative hPath host state
    cases (Dialogue.Yields.unique h hRefused).1
  | true =>
    obtain ⟨hMade, rfl⟩ := Dialogue.Yields.unique h (s.yields_chroot hPath hOther host state)
    rw [confinedTo] at hMade
    cases hConfined : s.confinedAt host state path with
    | error e =>
      rw [hConfined] at hMade
      cases hMade
    | ok parts =>
      rw [hConfined] at hMade
      cases hBase : s.resolver.setBase (baseLeft parts.2) with
      | error e =>
        simp only [bind, Except.bind, hBase] at hMade
        cases hMade
      | ok resolver =>
        simp only [bind, Except.bind, hBase] at hMade
        obtain rfl := Except.ok.inj hMade
        exact ⟨parts.1, parts.2, rfl, rfl, rfl, hBase, rfl⟩

-- ---------------------------------------------------------------------------
-- Failures
-- ---------------------------------------------------------------------------

/-- The host confined the process on one of these calls. -/
def Confines (host : Host σ) (state : σ) (calls : List Call) : Prop :=
  ∃ before root after, calls = before ++ .chroot root :: after ∧
    (host.answer (.chroot root) (host.after state before)).1 = .ok ()

/-- The process was confined if the path is hosted and the host did as it was asked. -/
theorem confines_confiningCalls_iff :
    Confines host state (s.confiningCalls path) ↔
      ∃ root rest, s.hosted? path = some (root, rest) ∧
        (host.answer (.chroot root) state).1 = .ok () := by
  rw [confiningCalls]
  cases hHosted : s.hosted? path with
  | none =>
    constructor
    · rintro ⟨before, root, after, hCalls, -⟩
      have hLength := congrArg List.length hCalls
      simp at hLength
    · rintro ⟨root, rest, hNone, -⟩
      cases hNone
  | some parts =>
    constructor
    · rintro ⟨before, root, after, hCalls, hAnswer⟩
      rcases List.singleton_eq_append_iff.mp hCalls with ⟨rfl, hCall⟩ | ⟨-, hNone⟩
      · obtain ⟨hRoot, rfl⟩ := List.cons.inj hCall
        obtain rfl := Call.chroot.inj hRoot
        exact ⟨parts.1, parts.2, rfl, hAnswer⟩
      · cases hNone
    · rintro ⟨root, rest, hParts, hAnswer⟩
      obtain rfl := Option.some.inj hParts
      exact ⟨[], root, [], rfl, hAnswer⟩

theorem isAbsolute_baseLeft {root rest : Text} (hHosted : s.hosted? path = some (root, rest)) :
    isAbsolute (baseLeft rest) = true := by
  obtain ⟨-, -, -, -, -, rfl | hAbsolute⟩ := hosted?_eq_some_iff.mp hHosted
  · rfl
  · rw [baseLeft_of_isAbsolute hAbsolute]
    exact hAbsolute

/-- A request that fails to change the session leaves it as it is. -/
theorem advance_yields_error {attempt : Attempt Session} {e : Error}
    (h : (s.advance attempt).Yields host state (.error e, next) calls) :
    next = s ∧ attempt.Yields host state (.error e) calls := by
  obtain ⟨result, first, second, hAttempt, hResult, rfl⟩ := Dialogue.yields_bind_iff.mp h
  cases result with
  | error e' =>
    obtain ⟨hMade, rfl⟩ := Dialogue.yields_done.mp hResult
    obtain ⟨hError, rfl⟩ := Prod.mk.inj hMade
    obtain rfl := Except.error.inj hError
    rw [List.append_nil]
    exact ⟨rfl, hAttempt⟩
  | ok made => cases (Dialogue.yields_done.mp hResult).1

/--
**What a failed request to confine a session leaves behind.** The session is as it was. The host has
confined the process all the same in one case, and in no other: the root lies at or below the
server root by its text, the host confined the process to the server root, and the base that is left
is too long for the limit. That is what the error says then. -/
theorem failed_chroot (host : Host σ) (state : σ) {e : Error}
    (hFailed : ((s.perform (.chroot path)).run host state).value = (.error e, next)) :
    next = s ∧
      (Confines host state ((s.perform (.chroot path)).run host state).calls ↔
        isAbsolute path = true ∧ ∃ root rest, s.hosted? path = some (root, rest) ∧
          (host.answer (.chroot root) state).1 = .ok () ∧
          let length := Text.byteLength (trimSlashes (clean (baseLeft rest)))
          s.resolver.limits.maxPathLength ≤ length ∧
            e = .nameTooLong length s.resolver.limits.maxPathLength) := by
  have hRun := Dialogue.yields_run (s.perform (.chroot path)) host state
  rw [hFailed] at hRun
  obtain ⟨rfl, hChroot⟩ := advance_yields_error hRun
  refine ⟨rfl, ?_⟩
  generalize ((next.perform (.chroot path)).run host state).calls = calls at hChroot
  have hNone : ¬ Confines host state [] := by
    rintro ⟨before, root, after, hCalls, -⟩
    exact absurd hCalls (by simp)
  cases hPath : isAbsolute path with
  | false =>
    obtain ⟨e', hRefused⟩ := next.yields_chroot_relative hPath host state
    obtain ⟨-, rfl⟩ := Dialogue.Yields.unique hChroot hRefused
    exact ⟨fun h => absurd h hNone, fun h => nomatch h.1⟩
  | true =>
    by_cases hRoot : path = ['/']
    · subst hRoot
      cases (Dialogue.Yields.unique hChroot (next.yields_chroot_root host state)).1
    obtain ⟨hMade, rfl⟩ := Dialogue.Yields.unique hChroot (next.yields_chroot hPath hRoot host state)
    rw [confines_confiningCalls_iff]
    constructor
    · rintro ⟨root, rest, hHosted, hAnswer⟩
      refine ⟨rfl, root, rest, hHosted, hAnswer, ?_⟩
      have hConfined : next.confinedAt host state path = .ok (root, rest) := by
        rw [confinedAt, hHosted]
        simp only [hAnswer]
      rw [confinedTo, hConfined] at hMade
      have hBase := next.resolver.setBase_of_isAbsolute (isAbsolute_baseLeft hHosted)
      by_cases hLong : next.resolver.limits.maxPathLength ≤
          Text.byteLength (trimSlashes (clean (baseLeft rest)))
      · simp only [if_pos hLong] at hBase
        simp only [bind, Except.bind, hBase] at hMade
        exact ⟨hLong, Except.error.inj hMade⟩
      · simp only [if_neg hLong] at hBase
        simp only [bind, Except.bind, hBase] at hMade
        cases hMade
    · rintro ⟨-, root, rest, hHosted, hAnswer, -⟩
      exact ⟨root, rest, hHosted, hAnswer⟩

/-- A session whose server root is `/srv`, with a limit that hardly any path meets. -/
def narrowSession : Session where
  resolver := { limits := ⟨8, 32⟩ }
  options := { serverRoot := some "/srv".toList }

/-- Where the host refuses, the process is not confined. -/
theorem failed_chroot_refused :
    let host : Host Bool :=
      FixedHost.toHost { failures := [(("chroot", "/srv".toList), .code Errno.notDirectory)] }
    ((narrowSession.perform (.chroot "/srv/a".toList)).run host false).value =
        (.error (.host (.code Errno.notDirectory)), narrowSession) ∧
      ¬ Confines host false
        ((narrowSession.perform (.chroot "/srv/a".toList)).run host false).calls := by
  intro host
  have hValue : ((narrowSession.perform (.chroot "/srv/a".toList)).run host false).value =
      (.error (.host (.code Errno.notDirectory)), narrowSession) :=
    (narrowSession.yields_perform_chroot _ rfl (by decide) host false).value
  refine ⟨hValue, fun hConfines => ?_⟩
  obtain ⟨-, root, rest, -, -, -, hError⟩ := (failed_chroot host false hValue).2.mp hConfines
  cases hError

/-- The base that is left is too long, and the process is confined to the server root. -/
theorem confined_by_failed_chroot :
    let host : Host Bool := ({} : FixedHost).toHost
    let run := (narrowSession.perform (.chroot "/srv/a/long/base".toList)).run host false
    run.value = (.error (.nameTooLong 12 8), narrowSession) ∧
      run.calls = [.chroot "/srv".toList] ∧ Confines host false run.calls := by
  intro host run
  have hLong : narrowSession.resolver.setBase "/a/long/base".toList =
      .error (.nameTooLong 12 8) := by
    rw [Resolver.setBase_of_isAbsolute _ rfl, Path.clean_eq_normal]
    rfl
  have hMade : narrowSession.confinedTo host false "/srv/a/long/base".toList =
      .error (.nameTooLong 12 8) := by
    show (narrowSession.resolver.setBase "/a/long/base".toList >>= _) = _
    rw [hLong]
    rfl
  have hRun : (narrowSession.perform (.chroot "/srv/a/long/base".toList)).Yields host false
      (.error (.nameTooLong 12 8), narrowSession) [.chroot "/srv".toList] := by
    have hChroot := narrowSession.yields_perform_chroot "/srv/a/long/base".toList rfl (by decide)
      host false
    rw [hMade] at hChroot
    exact hChroot
  refine ⟨hRun.value, hRun.calls, [], "/srv".toList, [], hRun.calls, rfl⟩

-- ---------------------------------------------------------------------------
-- Successes
-- ---------------------------------------------------------------------------

/-- The base behind the place of the process is the requested root, slashes at the end aside. -/
def Rejoined (chrootPath base path : Text) : Prop :=
  trimSlashes (bare chrootPath ++ base) = trimSlashes (clean path)

/-- The server root is no `/`, and the root lies at it or below it, when both are canonical. -/
def LiesWithin (serverRoot path : Text) : Prop :=
  trimSlashes (clean serverRoot) ≠ ['/'] ∧
    Resolver.AtOrAbove (trimSlashes (clean serverRoot)) (trimSlashes (clean path))

/-- The base that is kept has the names that are left of the path. -/
theorem trimSlashes_clean_baseLeft {rest : Text} (h : rest = [] ∨ isAbsolute rest = true) :
    trimSlashes (clean (baseLeft rest)) = trimmedPath (settled (segments rest)) := by
  rcases h with rfl | hAbsolute
  · exact Path.trimSlashes_clean rfl
  · rw [baseLeft_of_isAbsolute hAbsolute]
    exact Path.trimSlashes_clean hAbsolute

/-- One path lies within another if the names of that one, of which there are some, are the first
names of its own. -/
theorem liesWithin_iff_names {serverRoot : Text} (hServer : isAbsolute serverRoot = true)
    (hPath : isAbsolute path = true) :
    LiesWithin serverRoot path ↔ settled (segments serverRoot) ≠ [] ∧
      settled (segments serverRoot) <+: settled (segments path) := by
  have hNames := Path.isName_settled_segments serverRoot
  rw [LiesWithin, Path.trimSlashes_clean hServer, Path.trimSlashes_clean hPath]
  by_cases hEmpty : settled (segments serverRoot) = []
  · simp [hEmpty, trimmedPath]
  · have hLength := Path.one_lt_length_rooted hNames hEmpty
    have hSome : trimmedPath (settled (segments serverRoot)) =
        rooted (settled (segments serverRoot)) := by rw [trimmedPath, if_neg hEmpty]
    rw [hSome, Resolver.atOrAbove_iff_names hNames (Path.isName_settled_segments path) hEmpty]
    refine and_congr_left fun _ => ⟨fun _ => hEmpty, fun _ hRoot => ?_⟩
    rw [hRoot] at hLength
    exact absurd hLength (by decide)

/-- A root that lies within by its text does so by its names, if what it has behind the server root
does not climb. -/
theorem liesWithin_of_append {serverRoot rest : Text}
    (hRest : rest = [] ∨ isAbsolute rest = true) (hServer : isAbsolute serverRoot = true)
    (hPath : isAbsolute (bare serverRoot ++ rest) = true)
    (hSome : settled (segments serverRoot) ≠ []) (hClimbs : ¬ Path.Climbs (segments rest)) :
    LiesWithin serverRoot (bare serverRoot ++ rest) := by
  refine (liesWithin_iff_names hServer hPath).mpr ⟨hSome, ?_⟩
  rw [Path.settled_segments_append _ hRest, Path.settled_append_of_not_climbs hClimbs,
    Path.settled_segments_bare]
  exact List.prefix_append _ _

/-- Where both texts are canonical but for slashes at their end, the test on the text is the right
one. -/
theorem hosted?_iff_of_plain {serverRoot : Text} (hServer : s.options.serverRoot = some serverRoot)
    (hRoot : Plain serverRoot) (hPath : Plain path) :
    (∃ parts, s.hosted? path = some parts) ↔ LiesWithin serverRoot path := by
  obtain ⟨hBare, -⟩ := hRoot.eq_rooted
  obtain ⟨-, count, hText⟩ := hPath.eq_rooted
  constructor
  · rintro ⟨⟨root, rest⟩, hHosted⟩
    obtain ⟨serverRoot', hServer', rfl, hSome, rfl, hRest⟩ := hosted?_eq_some_iff.mp hHosted
    obtain rfl := Option.some.inj (hServer.symm.trans hServer')
    have hNames : settled (segments serverRoot) ≠ [] := fun hEmpty =>
      hSome (by rw [hBare, hEmpty]; rfl)
    refine liesWithin_of_append hRest hRoot.absolute hPath.absolute hNames fun hClimbs => ?_
    -- what climbs has a `..`, and the path has none
    refine hPath.up_not_mem ?_
    have hUp := hClimbs.up_mem
    rcases hRest with rfl | hAbsolute
    · exact absurd hUp (by decide)
    · obtain ⟨tail, rfl⟩ := Path.isAbsolute_iff.mp hAbsolute
      rw [Path.segments_slash_cons] at hUp
      rw [Path.segments_append_slash]
      rcases List.mem_cons.mp hUp with hNothing | hUp
      · cases hNothing
      · exact List.mem_append_right _ hUp
  · intro hWithin
    obtain ⟨hSome, more, hMore⟩ :=
      (liesWithin_iff_names hRoot.absolute hPath.absolute).mp hWithin
    refine ⟨(bare serverRoot, rooted more ++ List.replicate count '/'), ?_⟩
    refine hosted?_eq_some_iff.mpr ⟨serverRoot, hServer, rfl, ?_, ?_, ?_⟩
    · rw [hBare]
      exact Path.rooted_ne_nil hSome
    · rw [hBare, ← List.append_assoc, ← Path.rooted_append, hMore]
      exact hText
    · cases more with
      | nil => cases count <;> simp [isAbsolute, List.replicate_succ]
      | cons n more => exact Or.inr rfl

/--
**Where server root and base lead together.** A root other than `/` was installed. Without a server
root, and where the text of the root does not begin with that of the server root, the host was not
asked and the base is the root. Else the host confined the process to the server root, and the base
is what the root has behind it, made canonical alone. The two together are the root, if the text of
the server root is canonical and the rest does not climb, and not else. Whether the host is to be
asked is decided on the text. That is right for texts that are canonical but for slashes at their
end, and the host is asked rightly also where the rest does not climb.
-/
theorem chroot_composes (hOther : path ≠ ['/']) (host : Host σ) (state : σ)
    (hConfined : ((s.perform (.chroot path)).run host state).value = (.ok .done, next)) :
    ∃ chrootPath base, next.chrootPath = some chrootPath ∧ next.resolver.base = some base ∧
      (s.hosted? path = none → ((s.perform (.chroot path)).run host state).calls = [] ∧
        chrootPath = ['/'] ∧ Rejoined chrootPath base path) ∧
      (∀ root rest, s.hosted? path = some (root, rest) →
        ((s.perform (.chroot path)).run host state).calls = [.chroot root] ∧
        (host.answer (.chroot root) state).1 = .ok () ∧ chrootPath = root ∧
        (Rejoined chrootPath base path ↔ Trimmed root ∧ ¬ Path.Climbs (segments rest))) ∧
      ∀ serverRoot, s.options.serverRoot = some serverRoot → isAbsolute serverRoot = true →
        (Plain serverRoot → Plain path → ((∃ parts, s.hosted? path = some parts) ↔
          LiesWithin serverRoot path)) ∧
        ∀ root rest, s.hosted? path = some (root, rest) → ¬ Path.Climbs (segments rest) →
          trimSlashes (clean serverRoot) ≠ ['/'] → LiesWithin serverRoot path := by
  have hRun := Dialogue.yields_run (s.perform (.chroot path)) host state
  rw [hConfined] at hRun
  obtain ⟨chrootPath, base, hPlace, hPath, hCalls, hBase, hNext⟩ :=
    chroot_yields_ok hOther (advance_yields_ok hRun)
  rw [hCalls]
  obtain ⟨-, -, hResolver⟩ := Resolver.setBase_eq_ok_iff.mp hBase
  refine ⟨chrootPath, trimSlashes (clean (baseLeft base)), hNext, by rw [← hResolver], ?_, ?_, ?_⟩
  · intro hHosted
    rw [confinedAt, hHosted] at hPlace
    obtain ⟨rfl, rfl⟩ := Prod.mk.inj (Except.ok.inj hPlace)
    refine ⟨by rw [confiningCalls, hHosted]; rfl, rfl, ?_⟩
    rw [baseLeft_of_isAbsolute hPath]
    exact Path.trimSlashes_of_trimmed (Path.trimmed_trimSlashes (Path.tidy_clean hPath))
  · intro root rest hHosted
    obtain ⟨serverRoot, -, rfl, hSome, rfl, hRest⟩ := hosted?_eq_some_iff.mp hHosted
    rw [confinedAt, hHosted] at hPlace
    cases hAnswer : (host.answer (.chroot (bare serverRoot)) state).1 with
    | error failure =>
      simp only [hAnswer] at hPlace
      cases hPlace
    | ok value =>
      simp only [hAnswer] at hPlace
      obtain ⟨rfl, rfl⟩ := Prod.mk.inj (Except.ok.inj hPlace)
      refine ⟨by rw [confiningCalls, hHosted]; rfl, rfl, rfl, ?_⟩
      rw [Path.isAbsolute_append hSome] at hPath
      rw [Rejoined, trimSlashes_clean_baseLeft hRest,
        Path.bare_of_getLast? (Path.getLast?_bare serverRoot)]
      exact Path.rejoins_iff hPath (Path.getLast?_bare serverRoot) hRest
  · intro serverRoot hServer hAbsolute
    refine ⟨hosted?_iff_of_plain hServer, ?_⟩
    intro root rest hHosted hClimbs hSome
    obtain ⟨serverRoot', hServer', rfl, -, rfl, hRest⟩ := hosted?_eq_some_iff.mp hHosted
    obtain rfl := Option.some.inj (hServer.symm.trans hServer')
    rw [Path.trimSlashes_clean hAbsolute, trimmedPath] at hSome
    exact liesWithin_of_append hRest hAbsolute hPath (fun hEmpty => hSome (if_pos hEmpty)) hClimbs

/-- A session whose server root is `/srv/ftp`, configured with a slash at its end. -/
def ftpSession : Session where
  options := { serverRoot := some "/srv/ftp/".toList }

/-- The session `ftpSession`, confined to `/srv/ftp/store` in two parts. -/
def ftpStoreSession : Session where
  options := ftpSession.options
  resolver := { base := some "/store".toList }
  chrootPath := some "/srv/ftp".toList

/-- A path with the server root in front is found again: the host's root, and the base below it. -/
theorem chroot_composes_ftp :
    ((ftpSession.perform (.chroot "/srv/ftp/store".toList)).run
        (({} : FixedHost).toHost) false).value = (.ok .done, ftpStoreSession) ∧
      Rejoined "/srv/ftp".toList "/store".toList "/srv/ftp/store".toList ∧
      LiesWithin "/srv/ftp/".toList "/srv/ftp/store".toList := by
  have hBase : ftpSession.resolver.setBase "/store".toList = .ok ftpStoreSession.resolver := by
    rw [Resolver.setBase_of_isAbsolute _ rfl, Path.clean_eq_normal]
    rfl
  have hMade : ftpSession.confinedTo (({} : FixedHost).toHost) false "/srv/ftp/store".toList =
      .ok ftpStoreSession := by
    show (ftpSession.resolver.setBase "/store".toList >>= _) = _
    rw [hBase]
    rfl
  have hRun : ((ftpSession.perform (.chroot "/srv/ftp/store".toList)).run
      (({} : FixedHost).toHost) false).value = (.ok .done, ftpStoreSession) := by
    have hChroot := ftpSession.yields_perform_chroot "/srv/ftp/store".toList rfl (by decide)
      (({} : FixedHost).toHost) false
    rw [hMade] at hChroot
    exact hChroot.value
  have hHosted : ftpSession.hosted? "/srv/ftp/store".toList =
      some ("/srv/ftp".toList, "/store".toList) := rfl
  have hServer : Plain "/srv/ftp/".toList :=
    Path.trimmed_iff.mpr ⟨["srv".toList, "ftp".toList], by decide, rfl⟩
  have hRoot : Trimmed "/srv/ftp".toList := hServer
  have hPath : Plain "/srv/ftp/store".toList :=
    Path.trimmed_iff.mpr ⟨["srv".toList, "ftp".toList, "store".toList], by decide, rfl⟩
  have hClimbs : ¬ Path.Climbs (segments "/store".toList) := fun h => absurd h.up_mem (by decide)
  obtain ⟨chrootPath, base, hChrootPath, hBaseText, -, hParts, hWithin⟩ :=
    chroot_composes (by decide) _ false hRun
  obtain rfl := Option.some.inj hChrootPath
  obtain rfl := Option.some.inj hBaseText
  obtain ⟨-, -, -, hRejoined⟩ := hParts _ _ hHosted
  exact ⟨hRun, hRejoined.mpr ⟨hRoot, hClimbs⟩,
    ((hWithin _ rfl rfl).1 hServer hPath).mp ⟨_, hHosted⟩⟩

/-- A root that begins with the text of the server root and climbs out of it: the host confines the
process to a directory that the root does not lie in, and the two parts lead elsewhere. -/
theorem chroot_apart_from_root :
    let run := (ftpSession.perform (.chroot "/srv/ftp/../../etc".toList)).run
      (({} : FixedHost).toHost) false
    run.value.1 = .ok .done ∧ run.calls = [.chroot "/srv/ftp".toList] ∧
      run.value.2.chrootPath = some "/srv/ftp".toList ∧
      run.value.2.resolver.base = some "/etc".toList ∧
      ¬ Rejoined "/srv/ftp".toList "/etc".toList "/srv/ftp/../../etc".toList ∧
      ¬ LiesWithin "/srv/ftp/".toList "/srv/ftp/../../etc".toList := by
  intro run
  have hBase : ftpSession.resolver.setBase "/../../etc".toList =
      .ok { ftpSession.resolver with base := some "/etc".toList } := by
    rw [Resolver.setBase_of_isAbsolute _ rfl, Path.clean_eq_normal]
    rfl
  have hMade : ftpSession.confinedTo (({} : FixedHost).toHost) false
      "/srv/ftp/../../etc".toList = .ok { ftpStoreSession with
        resolver := { ftpSession.resolver with base := some "/etc".toList } } := by
    show (ftpSession.resolver.setBase "/../../etc".toList >>= _) = _
    rw [hBase]
    rfl
  have hRun := ftpSession.yields_perform_chroot "/srv/ftp/../../etc".toList rfl (by decide)
    (({} : FixedHost).toHost) false
  rw [hMade] at hRun
  refine ⟨?_, hRun.calls, ?_, ?_, ?_, ?_⟩
  · exact congrArg Prod.fst hRun.value
  · exact congrArg (fun value => value.2.chrootPath) hRun.value
  · exact congrArg (fun value => value.2.resolver.base) hRun.value
  · rw [Rejoined, Path.trimSlashes_clean rfl]
    decide
  · rw [liesWithin_iff_names rfl rfl]
    decide

end Session

end PathJail
