import Mathlib
import PathJail.Command.Run
import PathJail.Proofs.Session.Engine

/-!
# What the command says of a path

The command sets up a session, and resolves the paths that it is given by a lookup of its own: it
takes a path from the working directory and looks it up. A request to the same session does so too,
but not before it has looked at the path and at the session.

* `setUp`                    — the session that the command asks.
* `Opened`, `opened_of_setUp` — what holds of it.
* `shown`                    — the row of a path.
* `resolve_agrees_with_stat` — the command shows the path that a request hands to the host.
-/

namespace PathJail.Command

variable {settings : Settings} {document : Except HostError Text} {warnings : Text}
variable {s opened : Session} {σ α : Type} {host : Host σ} {state : σ} {calls : List Call}

-- ---------------------------------------------------------------------------
-- The session of the command
-- ---------------------------------------------------------------------------

/-- The session that the command asks, and the warning that stands before its answer. -/
def setUp (settings : Settings) (document : Except HostError Text) : Step (Text × Session) := do
  let (warnings, session) ← openSession settings document
  return (warnings, ← enter settings session)

/-- The session comes about by requests, and serves its client. -/
structure Opened (s : Session) : Prop where
  reachable : s.Reachable
  phase : s.phase = .normal

/-- Confining a session leaves its phase. -/
theorem every_chroot_phase (s : Session) (path : Text) :
    (s.chroot path).Every (fun _ => True) fun next => next.phase = s.phase := by
  unfold Session.chroot
  by_cases hEmpty : path = []
  · simp [hEmpty]
  cases hAbsolute : Path.isAbsolute path with
  | false => simp [hEmpty]
  | true =>
    simp only [if_neg hEmpty, Bool.not_true, Bool.false_eq_true, if_false]
    split
    · simp
    simp only [Attempt.every_bind, Attempt.every_note, Attempt.every_pure]
    exact (Attempt.every_true _).mono fun _ _ => (Attempt.every_true _).mono fun _ _ => trivial

theorem every_chdir_phase (s : Session) (path : Text) :
    (s.chdir path).Every (fun _ => True) fun next => next.phase = s.phase := by
  unfold Session.chdir
  split
  · simp
  · simp [Resolver.every_find]

/-- A configuration leaves a session that comes about and serves its client. -/
theorem opened_of_configure {config : Config} {outcome : Except Error AliasReport × Session}
    (h : (Session.new.configure config).Ends outcome) : Opened outcome.2 where
  reachable := .perform (.configure config) .new (h.bind (.done _))
  phase := by
    refine Dialogue.Every.ends (Session.every_configure (P := fun s => s.phase = .normal) rfl
      (fun s path hPhase => ?_) fun s _ _ hPhase => ?_) h
    · exact (every_chroot_phase s path).mono fun _ hNext => hNext.trans hPhase
    · exact (Attempt.every_true _).mono fun _ _ => hPhase

theorem opened_of_chdir {next : Session} {path : Text} (hs : Opened s)
    (h : (s.chdir path).run.Ends (.ok next)) : Opened next where
  reachable := .perform (.chdir path) hs.reachable (h.bind (.done _))
  phase := ((every_chdir_phase s path).ends h next rfl).trans hs.phase

-- Steps fail with a failure instead of an error, and follow each other like attempts.

theorem yields_bind_ok {β : Type} {x : Step α} {f : α → Step β} {b : β}
    (h : (x >>= f).run.Yields host state (.ok b) calls) :
    ∃ a first second, x.run.Yields host state (.ok a) first ∧
      (f a).run.Yields host (host.after state first) (.ok b) second ∧ calls = first ++ second := by
  rw [ExceptT.run_bind] at h
  obtain ⟨made, first, second, hFirst, hSecond, rfl⟩ := Dialogue.yields_bind_iff.mp h
  cases made with
  | error failure => cases (Dialogue.yields_done.mp hSecond).1
  | ok a => exact ⟨a, first, second, hFirst, hSecond, rfl⟩

/-- A step that makes no calls, and what follows its success without calls. -/
theorem yields_silent_bind {β : Type} {x : Step α} {f : α → Step β} {made : Except Failure α}
    {rest : α → Except Failure β} (hFirst : x.run.Yields host state made [])
    (hRest : ∀ a, (f a).run.Yields host state (rest a) []) :
    (x >>= f).run.Yields host state (made >>= rest) [] := by
  rw [ExceptT.run_bind]
  cases made with
  | error failure => exact Dialogue.Yields.bind hFirst (Dialogue.yields_done.mpr ⟨rfl, rfl⟩)
  | ok a => exact Dialogue.Yields.bind hFirst (hRest a)

/-- An explained attempt fails with what was being done, and the causes of its error. -/
theorem run_explain (context : Text) (attempt : Attempt α) :
    (explain context attempt).run =
      Except.mapError (fun e => Failure.mk context e.causes) <$> attempt.run :=
  ExceptT.run_adapt _ _

/-- An explanation leaves the calls as they are. -/
theorem yields_explain {attempt : Attempt α} {result : Except Error α} (context : Text)
    (h : attempt.Yields host state result calls) :
    (explain context attempt).run.Yields host state
      (result.mapError fun e => ⟨context, e.causes⟩) calls := by
  rw [run_explain]
  constructor
  · rw [Dialogue.run_map, ← h.value]
  · rw [Dialogue.run_map, ← h.calls]

theorem ends_of_explain {attempt : Attempt α} {context : Text} {a : α}
    (h : (explain context attempt).run.Ends (.ok a)) : attempt.run.Ends (.ok a) := by
  rw [run_explain] at h
  obtain ⟨result, hEnds, hResult⟩ := h.of_map
  cases result with
  | error e => cases hResult
  | ok made =>
    obtain rfl := Except.ok.inj hResult
    exact hEnds

/-- The session that a command opens comes about and serves its client. -/
theorem opened_of_openSession
    (h : (openSession settings document).run.Yields host state (.ok (warnings, opened)) calls) :
    Opened opened := by
  obtain ⟨config, _, _, -, hRest, -⟩ := yields_bind_ok h
  obtain ⟨⟨report, configured⟩, _, _, hConfigure, hLast, -⟩ := yields_bind_ok hRest
  obtain ⟨counted, _, _, -, hPure, -⟩ := yields_bind_ok hLast
  obtain ⟨hSame, -⟩ := Dialogue.yields_done.mp hPure
  obtain ⟨-, rfl⟩ := Prod.mk.inj (Except.ok.inj hSame)
  have hEnds := hConfigure.ends
  rw [ExceptT.run_lift] at hEnds
  obtain ⟨outcome, hOutcome, hMade⟩ := hEnds.of_map
  obtain rfl := Except.ok.inj hMade
  exact opened_of_configure hOutcome

theorem opened_of_setUp
    (h : (setUp settings document).run.Yields host state (.ok (warnings, s)) calls) : Opened s := by
  obtain ⟨⟨_, opened⟩, first, second, hOpen, hRest, -⟩ := yields_bind_ok h
  have hOpened := opened_of_openSession hOpen
  obtain ⟨entered, _, _, hEnter, hPure, -⟩ := yields_bind_ok hRest
  obtain ⟨hSame, -⟩ := Dialogue.yields_done.mp hPure
  obtain ⟨-, rfl⟩ := Prod.mk.inj (Except.ok.inj hSame)
  rw [enter] at hEnter
  split at hEnter
  · obtain ⟨hSame, -⟩ := Dialogue.yields_done.mp hEnter
    obtain rfl := Except.ok.inj hSame
    exact hOpened
  · exact opened_of_chdir hOpened (ends_of_explain hEnter.ends)

-- ---------------------------------------------------------------------------
-- The answer
-- ---------------------------------------------------------------------------

/-- An answer to a query is that of the session that was set up, behind the warning. -/
theorem yields_perform
    (hSession : (setUp settings document).run.Yields host state (.ok (warnings, s)) calls)
    {query : Query} {rows : Except Failure (List Row)} {later : List Call}
    (hAnswer : (query.answer s).run.Yields host (host.after state calls) rows later) :
    (Invocation.perform ⟨settings, .query query⟩ document).Yields host state
      (Invocation.outcome settings warnings rows) (calls ++ later) := by
  obtain ⟨⟨_, opened⟩, first, second, hOpen, hRest, rfl⟩ := yields_bind_ok hSession
  obtain ⟨entered, third, fourth, hEnter, hPure, rfl⟩ := yields_bind_ok hRest
  obtain ⟨hSame, rfl⟩ := Dialogue.yields_done.mp hPure
  obtain ⟨rfl, rfl⟩ := Prod.mk.inj (Except.ok.inj hSame)
  rw [List.append_nil, Host.after_append] at hAnswer
  have hRows : (enter settings opened >>= fun session => query.answer session).run.Yields host
      (host.after state first) rows (third ++ later) := by
    rw [ExceptT.run_bind]
    exact Dialogue.Yields.bind hEnter hAnswer
  have hPrint : Dialogue.Yields (do
        let rows ← (enter settings opened >>= fun session => query.answer session).run
        return Invocation.outcome settings warnings rows) host (host.after state first)
      (Invocation.outcome settings warnings rows) (third ++ later) := by
    rw [← List.append_nil (third ++ later)]
    exact hRows.bind (Dialogue.yields_done.mpr ⟨rfl, rfl⟩)
  rw [List.append_nil, List.append_assoc]
  exact Dialogue.Yields.bind hOpen hPrint

/-- The row of a path that the command is to resolve, or the failure that it ends with. -/
def shown (s : Session) (raised : Bool) (path : Text) : Except Failure Row :=
  match s.resolver.lookup raised (s.resolver.realpath path true) true with
  | .ok resolved => .ok (resolvedRow path resolved)
  | .error e => .error ⟨"failed to resolve ".toList ++ path, e.causes⟩

/-- What the command shows of a path takes no call to the host. -/
theorem yields_resolvePath (s : Session) (path : Text) (host : Host σ) (state : σ) :
    (resolvePath s true path).run.Yields host state (shown s (host.raised state) path) [] := by
  have hFind := yields_explain ("failed to resolve ".toList ++ path)
    (s.resolver.yields_find (s.resolver.realpath path true) true host state)
  have hShown : shown s (host.raised state) path =
      (s.resolver.lookup (host.raised state) (s.resolver.realpath path true) true).mapError
        (fun e => ⟨"failed to resolve ".toList ++ path, e.causes⟩) >>=
        fun resolved => .ok (resolvedRow path resolved) := by
    rw [shown]
    cases s.resolver.lookup (host.raised state) (s.resolver.realpath path true) true <;> rfl
  rw [hShown]
  exact yields_silent_bind hFind fun _ => Dialogue.yields_done.mpr ⟨rfl, rfl⟩

/-- Paths are resolved one after the other; the first one that cannot be ends it. -/
theorem yields_resolve (s : Session) (paths : List Text) (host : Host σ) (state : σ) :
    ((Query.resolve paths true).answer s).run.Yields host state
      (paths.mapM (shown s (host.raised state))) [] := by
  rw [Query.answer]
  induction paths with
  | nil => exact Dialogue.yields_done.mpr ⟨rfl, rfl⟩
  | cons path paths ih =>
    rw [List.mapM_cons, List.mapM_cons]
    exact yields_silent_bind (yields_resolvePath s path host state) fun row =>
      yields_silent_bind ih fun rows => Dialogue.yields_done.mpr ⟨rfl, rfl⟩

/--
**The command shows the path that a request hands to the host.** For every configuration that the
command accepts, every working directory and every list of paths, it prints one row for each path,
or the failure of the first one that has none, and asks the host for nothing more than the session
took to set up. Where the session has a base and the path is not empty, a request to look at it asks
the host for the real path of the row; or the lookup fails, and the request fails with the same
error and has asked for nothing.

The command looks at neither condition. A request of a session without a base goes to the host with
the path that it came with, and one with an empty path fails.
-/
theorem resolve_agrees_with_stat (hLog : settings.log.bind LogFilter.problem? = none)
    (hSession : (setUp settings document).run.Yields host state (.ok (warnings, s)) calls) :
    let later := host.after state calls
    (∀ paths, (Invocation.run ⟨settings, .query (.resolve paths true)⟩ document).Yields host state
      (Invocation.outcome settings warnings (paths.mapM (shown s (host.raised later)))) calls) ∧
    ∀ path,
      let stat := (s.perform (.stat path)).run host later
      match s.resolver.base with
      | none => stat.calls = [.stat path]
      | some _ =>
        if path = [] then stat.value = (.error .emptyPath, s) ∧ stat.calls = []
        else
          (∃ resolved : Resolved, stat.calls = [.stat resolved.real] ∧
            shown s (host.raised later) path = .ok (resolvedRow path resolved)) ∨
          ∃ e : Error, stat.value = (.error e, s) ∧ stat.calls = [] ∧
            shown s (host.raised later) path =
              .error ⟨"failed to resolve ".toList ++ path, e.causes⟩ := by
  have hOpened := opened_of_setUp hSession
  refine ⟨fun paths => ?_, fun path => ?_⟩
  · have hAnswer := yields_perform hSession (yields_resolve s paths host (host.after state calls))
    rw [List.append_nil] at hAnswer
    rw [Invocation.run, hLog]
    exact hAnswer
  dsimp only
  split
  · rename_i hBare
    rw [Session.perform_of_bare hBare rfl]
    rfl
  rename_i base hBase
  have hs : s.Confined := ⟨hOpened.reachable.resolver.canonical, by rw [hBase]; rfl⟩
  have hNormal := Session.bypasses_eq_false hs hOpened.phase
  have hTarget := Session.yields_target hs hNormal path host (host.after state calls)
  split
  · rename_i hPath
    rw [hPath] at hTarget ⊢
    have hStat : (s.perform (.stat [])).Yields host (host.after state calls) (.error .emptyPath, s)
        [] := Session.yields_observe hTarget.bind_error
    exact ⟨hStat.value, hStat.calls⟩
  rename_i hPath
  have hVirtual : s.normalized path = .ok _ := if_neg hPath
  rw [Session.translated_of_normalized hVirtual, ← Session.lookup_realpath hs hVirtual] at hTarget
  cases hFound : s.resolver.lookup (host.raised (host.after state calls))
    (s.resolver.realpath path true) true with
  | error e =>
    rw [hFound] at hTarget
    have hStat : (s.perform (.stat path)).Yields host (host.after state calls) (.error e, s) [] :=
      Session.yields_observe hTarget.bind_error
    exact Or.inr ⟨e, hStat.value, hStat.calls, by rw [shown, hFound]⟩
  | ok resolved =>
    rw [hFound] at hTarget
    have hStat : (s.stat path).Yields host (host.after state calls) _ [.stat resolved.real] :=
      hTarget.then (Attempt.yields_ask (.stat resolved.real) host (host.after state calls))
    exact Or.inl ⟨resolved, (Session.yields_observe hStat).calls, by rw [shown, hFound]⟩

/-- What the command reads of a file that names a root. -/
def storeDocument : Except HostError Text := .ok "\x7b\"root\":\"/store\"\x7d".toList

theorem setUp_storeDocument :
    (setUp { config := some "vroot.json".toList } storeDocument).run.Yields
      (({} : FixedHost).toHost) false (.ok ([], Session.storeSession)) [] :=
  ⟨by cbv, by cbv⟩

/-- The row shows where the host was asked to look. -/
theorem resolve_agrees_with_stat_store :
    (setUp { config := some "vroot.json".toList } storeDocument).run.Yields
      (({} : FixedHost).toHost) false (.ok ([], Session.storeSession)) [] ∧
    ((Invocation.run ⟨{ config := some "vroot.json".toList }, .query (.resolve ["a".toList] true)⟩
      storeDocument).run (({} : FixedHost).toHost) false).value =
        ⟨0, "a -> /store/a\n".toList, []⟩ ∧
    ((Session.storeSession.perform (.stat "a".toList)).run (({} : FixedHost).toHost) false).calls =
      [.stat "/store/a".toList] := by
  obtain ⟨hPrint, hAgree⟩ := resolve_agrees_with_stat
    (show ({ config := some "vroot.json".toList } : Settings).log.bind LogFilter.problem? = none
      from rfl) setUp_storeDocument
  have hShown : shown Session.storeSession false "a".toList =
      .ok (resolvedRow "a".toList ⟨"/store/a".toList, none⟩) := by cbv
  refine ⟨setUp_storeDocument, (hPrint ["a".toList]).value.trans ?_, ?_⟩
  · show Invocation.outcome _ _ (["a".toList].mapM (shown Session.storeSession false)) = _
    rw [List.mapM_cons, hShown]
    rfl
  · rcases hAgree "a".toList with ⟨resolved, hCalls, hRow⟩ | ⟨e, -, -, hFailed⟩
    · have hSame := hShown.symm.trans hRow
      simp only [resolvedRow, Except.ok.injEq, Row.mk.injEq, Json.object.injEq, List.cons.injEq,
        Prod.mk.injEq, Json.string.injEq] at hSame
      obtain ⟨⟨-, -, ⟨-, hReal⟩, -⟩, -⟩ := hSame
      rw [hReal]
      exact hCalls
    · cases hShown.symm.trans hFailed

/-- Two paths that the command shows and a request does not look for: the empty one, which fails,
and one without a base, which goes to the host as it is. -/
theorem resolve_apart_from_stat :
    ((Invocation.run ⟨{ config := some "vroot.json".toList }, .query (.resolve [[]] true)⟩
        storeDocument).run (({} : FixedHost).toHost) false).value =
      ⟨0, " -> /store/\n".toList, []⟩ ∧
    (Session.storeSession.perform (.stat [])).Yields (({} : FixedHost).toHost) false
      (.error .emptyPath, Session.storeSession) [] ∧
    (setUp {} (.ok [])).run.Yields (({} : FixedHost).toHost) false (.ok ([], .new)) [] ∧
    ((Invocation.run ⟨{}, .query (.resolve ["a/../b".toList] true)⟩ (.ok [])).run
        (({} : FixedHost).toHost) false).value = ⟨0, "a/../b -> /b\n".toList, []⟩ ∧
    ((Session.new.perform (.stat "a/../b".toList)).run (({} : FixedHost).toHost) false).calls =
      [.stat "a/../b".toList] := by
  exact ⟨by cbv, ⟨rfl, rfl⟩, ⟨by cbv, by cbv⟩, by cbv, rfl⟩

end PathJail.Command
