import PathJail.Proofs.Session.Deletion

/-!
# What a path names

There are two ways from a requested path to its real one. Most requests take the path from the
working directory and look up what it comes to; the others normalize it first, and leave a `.` to
the lookup. The working directory is canonical, so both ways come to the same: what one request
checks is what another one uses.

* `lookup_realpath`    — both ways lead to the same lookup.
* `translated`         — the real path of a requested path.
* `Request.HandsOn`    — the calls that a request makes with the real paths of those it names.
* `Attempt.Follows`    — an attempt goes by a translation: it fails with it, or makes its calls.
* `requests_translate` — all requests translate their paths alike.
-/

namespace PathJail

variable {σ α β γ : Type} {host : Host σ} {state : σ} {calls : List Call}

/-- A step that makes no calls, and what follows its success without calls. -/
theorem Attempt.Yields.silent_bind {x : Attempt α} {f : α → Attempt β} {made : Except Error α}
    {rest : α → Except Error β} (hFirst : x.Yields host state made [])
    (hRest : ∀ a, (f a).Yields host state (rest a) []) :
    Attempt.Yields (x >>= f) host state (made >>= rest) [] := by
  cases made with
  | error e => exact hFirst.bind_error
  | ok a => exact hFirst.then (hRest a)

-- ---------------------------------------------------------------------------
-- Both ways
-- ---------------------------------------------------------------------------

namespace Resolver

/-- A lookup of `.` is one of the working directory. -/
theorem lookup_dot {r : Resolver} (hCwd : Path.isAbsolute r.cwd = true) (raised follow : Bool) :
    r.lookup raised ['.'] follow = r.lookup raised r.cwd follow := by
  have hNonempty : r.cwd ≠ [] := by
    intro hEmpty
    rw [hEmpty] at hCwd
    cases hCwd
  have hSource : r.source ['.'] = r.cwd := if_pos rfl
  have hConfine : r.confine raised ['.'] = r.confine raised r.cwd := by
    rw [confine_eq, confine_eq, hSource, source_of_absolute hCwd, if_neg (List.cons_ne_nil _ _),
      if_neg hNonempty]
  rw [lookup, lookup, hConfine]

end Resolver

namespace Session

variable {s : Session}

/-- **Both ways lead to the same lookup.** Text that is not `.` is taken from the working directory
in the same way; a `.` behind the working directory comes to the working directory. -/
theorem lookup_realpath (hs : s.Confined) {path virtual : Text}
    (hVirtual : s.normalized path = .ok virtual) (raised follow : Bool) :
    s.resolver.lookup raised (s.resolver.realpath path true) follow =
      s.resolver.lookup raised virtual follow := by
  rw [normalized] at hVirtual
  split at hVirtual
  · cases hVirtual
  rename_i hPath
  obtain rfl := Except.ok.inj hVirtual
  rw [Resolver.realpath, anchored]
  by_cases hDot : path = ['.']
  · subst hDot
    have hClean : Path.trimSlash (Path.clean ['.']) = ['.'] := by
      rw [Path.clean_eq_normal]
      rfl
    have hHere : Path.trimSlash (Path.clean (s.resolver.fromCwd ['.'])) = s.resolver.cwd :=
      Path.trimSlash_clean_append_dot hs.canonical.cwd
    rw [if_pos (Or.inr (Or.inl rfl)), hClean,
      Resolver.lookup_dot hs.canonical.cwd.tidy.absolute]
    exact congrArg (s.resolver.lookup raised · follow) hHere
  · cases hAbsolute : Path.isAbsolute path <;> simp [hPath, hDot]

/-- The real path that a requested path is translated to. -/
def translated (s : Session) (raised : Bool) (path : Text) : Except Error Text := do
  let virtual ← s.normalized path
  return (← s.resolver.lookup raised virtual true).real

/-- The translation of a path is the lookup of its normal form. -/
theorem translated_of_normalized {raised : Bool} {path virtual : Text}
    (h : s.normalized path = .ok virtual) :
    s.translated raised path = Resolved.real <$> s.resolver.lookup raised virtual true := by
  rw [translated, h, map_eq_pure_bind]
  rfl

/-- A path that was translated was normalized and looked up. -/
theorem exists_lookup_of_translated {raised : Bool} {path real : Text}
    (h : s.translated raised path = .ok real) :
    ∃ virtual resolved, s.normalized path = .ok virtual ∧
      s.resolver.lookup raised virtual true = .ok resolved ∧ resolved.real = real := by
  cases hVirtual : s.normalized path with
  | error e =>
    rw [translated, hVirtual] at h
    cases h
  | ok virtual =>
    rw [translated_of_normalized hVirtual] at h
    cases hLookup : s.resolver.lookup raised virtual true with
    | error e =>
      rw [hLookup] at h
      cases h
    | ok resolved =>
      rw [hLookup] at h
      exact ⟨virtual, resolved, rfl, hLookup, Except.ok.inj h⟩

/-- A request resolves its path to the translation, without a call. -/
theorem yields_resolve (hs : s.Confined) (path : Text) (host : Host σ) (state : σ) :
    (s.resolve path).Yields host state (s.translated (host.raised state) path) [] := by
  by_cases hPath : path = []
  · subst hPath
    exact (Attempt.yields_throw _).mpr ⟨rfl, rfl⟩
  have hFind := s.resolver.yields_find (s.resolver.realpath path true) true host state
  rw [lookup_realpath hs (if_neg hPath)] at hFind
  rw [resolve, if_neg hPath, translated, normalized, if_neg hPath]
  exact hFind.silent_bind fun resolved => (Attempt.yields_pure _).mpr ⟨rfl, rfl⟩

theorem yields_target (hs : s.Confined) (hNormal : s.bypasses = false) (path : Text)
    (host : Host σ) (state : σ) :
    (s.target path).Yields host state (s.translated (host.raised state) path) [] := by
  rw [target, hNormal, if_neg Bool.false_ne_true]
  exact yields_resolve hs path host state

/-- The path is itself an alias. -/
def NamesAlias (s : Session) (path : Text) : Prop :=
  ∃ placed, s.unaliased false path = .ok placed ∧ Path.trimSlashes placed ∈ s.resolver.aliases.keys

/-- A path that is no alias is deleted where all other requests find it. -/
theorem deletion_eq_translated {path : Text} (h : ¬ s.NamesAlias path) (raised : Bool) :
    s.deletion raised path = s.translated raised path := by
  unfold deletion translated
  cases hVirtual : s.normalized path with
  | error e => rfl
  | ok virtual =>
    simp only [bind, Except.bind]
    cases hPlaced : s.resolver.confine raised virtual with
    | error e => rw [Resolver.lookup_of_confine_error hPlaced]
    | ok placed =>
      obtain rfl := Resolver.raised_of_confine hPlaced
      have hOther : ¬ s.resolver.aliases.contains (Path.trimSlashes placed) = true := by
        intro hContains
        refine h ⟨placed, ?_, contains_iff.mp hContains⟩
        rw [unaliased_of_normalized hVirtual, hPlaced]
      simp only [if_neg hOther]

end Session

-- ---------------------------------------------------------------------------
-- Attempts that go by a translation
-- ---------------------------------------------------------------------------

/-- The attempt goes by what was made: it fails with its failure and has asked for nothing, or it
makes calls that fit it. -/
structure Attempt.Follows (x : Attempt α) (host : Host σ) (state : σ) (made : Except Error β)
    (C : β → List Call → Prop) : Prop where
  fails : ∀ e, made = .error e → x.Yields host state (.error e) []
  calls : ∀ b, made = .ok b → ∃ result calls, x.Yields host state result calls ∧ C b calls

/-- A dialogue that has no call to make makes none. -/
theorem Dialogue.calls_eq_nil {d : Dialogue α} {Q : α → Prop} (h : d.Every (fun _ => False) Q) :
    (d.run host state).calls = [] :=
  List.eq_nil_iff_forall_not_mem.mpr fun _ hCall => h.asks (asks_run hCall)

namespace Attempt

variable {C : γ → List Call → Prop}

/-- An attempt that makes the calls of a success follows it. -/
theorem follows_ok {x : Attempt α} {c : γ} {result : Except Error α}
    (h : x.Yields host state result calls) (hCalls : C c calls) :
    x.Follows host state (.ok c) C := by
  refine ⟨nofun, fun c' hc => ?_⟩
  obtain rfl := Except.ok.inj hc
  exact ⟨result, calls, h, hCalls⟩

/-- A step that makes no calls, and what follows its success. -/
theorem Follows.bind {x : Attempt α} {f : α → Attempt β} {made : Except Error α}
    {rest : α → Except Error γ} (hFirst : x.Yields host state made [])
    (hRest : ∀ a, made = .ok a → (f a).Follows host state (rest a) C) :
    Attempt.Follows (x >>= f) host state (made >>= rest) C := by
  cases made with
  | error e =>
    refine ⟨fun e' he => ?_, nofun⟩
    obtain rfl := Except.error.inj he
    exact hFirst.bind_error
  | ok a =>
    obtain ⟨hFails, hCalls⟩ := hRest a rfl
    refine ⟨fun e he => hFirst.then (hFails e he), fun c hc => ?_⟩
    obtain ⟨result, calls, hYields, hFits⟩ := hCalls c hc
    exact ⟨result, calls, hFirst.then hYields, hFits⟩

end Attempt

-- ---------------------------------------------------------------------------
-- The requests and their paths
-- ---------------------------------------------------------------------------

namespace Request

/-- The paths of a request that it translates. -/
def named : Request → List Text
  | .stat p | .lstat p | .openFile p | .truncate p _ | .chmod p _ | .chown p _ _ | .lchown p _ _
  | .utimes p _ _ | .mkdir p _ | .rmdir p | .unlink p | .chdir p | .opendir p | .readDir p => [p]
  | .link p q | .symlink p q | .rename p q => [p, q]
  | _ => []

def deletes : Request → Bool
  | .rmdir _ | .unlink _ => true
  | _ => false

/-- The request puts these real paths in the place of those that it names, and makes these calls. A
request to look at an entry may look at it a second time, through the link that it is. One to open a
directory looks for a link there, and may go on from it. -/
def HandsOn : Request → List Text → List Call → Prop
  | .stat _, [real], calls => calls = [.stat real]
  | .openFile _, [real], calls => calls = [.openFile real]
  | .truncate _ length, [real], calls => calls = [.truncate real length]
  | .chmod _ mode, [real], calls => calls = [.chmod real mode]
  | .chown _ uid gid, [real], calls => calls = [.chown real uid gid]
  | .lchown _ uid gid, [real], calls => calls = [.lchown real uid gid]
  | .utimes _ accessed modified, [real], calls => calls = [.utimes real accessed modified]
  | .mkdir _ mode, [real], calls => calls = [.mkdir real mode]
  | .rmdir _, [real], calls => calls = [.rmdir real]
  | .unlink _, [real], calls => calls = [.unlink real]
  | .chdir _, [real], calls => calls = [.chdir real]
  | .lstat _, [real], calls => calls = [.lstat real] ∨ calls = [.lstat real, .stat real]
  | .opendir _, reals, calls | .readDir _, reals, calls =>
    ∃ real later, reals = [real] ∧ calls = .lstat real :: later
  | .link _ _, [source, destination], calls => calls = [.link source destination]
  | .symlink _ _, [target, entry], calls => calls = [.symlink target entry]
  | .rename _ _, [source, destination], calls => calls = [.rename source destination]
  | _, _, _ => False

end Request

namespace Session

variable {s : Session}

/-- What the dialogue of a request comes to: a failure of the translation is its answer, and nothing
was asked for; else its calls fit the translation. -/
structure Settles (s : Session) (d : Dialogue (Except Error Answer × Session)) (host : Host σ)
    (state : σ) (made : Except Error β) (C : β → List Call → Prop) : Prop where
  fails : ∀ e, made = .error e → (d.run host state).value = (.error e, s) ∧
    (d.run host state).calls = []
  calls : ∀ b, made = .ok b → C b (d.run host state).calls

/-- What is made of an attempt settles the request, if a failure is passed on and the calls go on to
be right. -/
theorem settles_bind {x : Attempt α} {f : Except Error α → Dialogue (Except Error Answer × Session)}
    {made : Except Error β} {C : β → List Call → Prop} (h : x.Follows host state made C)
    (hFail : ∀ e, f (.error e) = pure (.error e, s))
    (hLater : ∀ b calls a state, C b calls → C b (calls ++ ((f (.ok a)).run host state).calls)) :
    s.Settles (x.run >>= f) host state made C := by
  constructor
  · intro e he
    have hRun : (x.run >>= f).Yields host state (.error e, s) ([] ++ []) :=
      Dialogue.Yields.bind (h.fails e he) (hFail e ▸ Dialogue.yields_done.mpr ⟨rfl, rfl⟩)
    exact ⟨hRun.value, hRun.calls⟩
  · intro b hb
    obtain ⟨result, calls, hYields, hFits⟩ := h.calls b hb
    have hLast := Dialogue.yields_run (f result) host (host.after state calls)
    rw [(Dialogue.Yields.bind hYields hLast).calls]
    cases result with
    | error e =>
      rw [hFail]
      exact (List.append_nil calls).symm ▸ hFits
    | ok a => exact hLater b calls a _ hFits

/-- A request that leaves the session as it is. -/
theorem settles_observe {x : Attempt α} {wrap : α → Answer} {made : Except Error β}
    {C : β → List Call → Prop} (h : x.Follows host state made C) :
    s.Settles (s.observe wrap x) host state made C := by
  refine settles_bind h (fun _ => rfl) fun b calls a _ hFits => ?_
  exact (List.append_nil calls).symm ▸ hFits

/-- A request that changes the session if it succeeds. -/
theorem settles_advance {x : Attempt Session} {made : Except Error β}
    {C : β → List Call → Prop} (h : x.Follows host state made C) :
    s.Settles (s.advance x) host state made C := by
  refine settles_bind h (fun _ => rfl) fun b calls a _ hFits => ?_
  exact (List.append_nil calls).symm ▸ hFits

-- ---------------------------------------------------------------------------
-- Requests, one shape after the other
-- ---------------------------------------------------------------------------

/-- One path is translated, and a call made with it. -/
theorem settles_target (hs : s.Confined) (hNormal : s.bypasses = false) (path : Text)
    {wrap : α → Answer} {ask : Text → Attempt α} {C : List Text → List Call → Prop}
    (hAsk : ∀ real, (ask real).Follows host state (.ok [real]) C) :
    s.Settles (s.observe wrap (s.target path >>= ask)) host state
      ([path].mapM (s.translated (host.raised state))) C := by
  refine settles_observe ?_
  rw [List.mapM_cons]
  exact .bind (yields_target hs hNormal path host state) fun real _ => hAsk real

/-- Two paths are translated, the first one first. -/
theorem settles_two_targets (hs : s.Confined) (hNormal : s.bypasses = false)
    (path other : Text) {wrap : α → Answer} {ask : Text → Text → Attempt α}
    {C : List Text → List Call → Prop}
    (hAsk : ∀ real second, (ask real second).Follows host state (.ok [real, second]) C) :
    s.Settles (s.observe wrap do
        let real ← s.target path
        let second ← s.target other
        ask real second) host state
      ([path, other].mapM (s.translated (host.raised state))) C := by
  refine settles_observe ?_
  rw [List.mapM_cons]
  refine .bind (yields_target hs hNormal path host state) fun real _ => ?_
  rw [List.mapM_cons, bind_assoc]
  exact .bind (yields_target hs hNormal other host state) fun second _ => hAsk real second

/-- A path that is no alias is translated, and deleted. -/
theorem follows_deletable {path : Text} (hOther : ¬ s.NamesAlias path)
    {ask : Text → Attempt α} {C : List Text → List Call → Prop}
    (hAsk : ∀ real, (ask real).Follows host state (.ok [real]) C) :
    Attempt.Follows (s.deletable path >>= ask) host state
      ([path].mapM (s.translated (host.raised state))) C := by
  have hDeletable := s.yields_deletable path host state
  rw [deletion_eq_translated hOther] at hDeletable
  rw [List.mapM_cons]
  exact .bind hDeletable fun real _ => hAsk real

/-- A path is normalized and looked up. -/
theorem follows_normalized (path : Text) {ask : Text → Resolved → Attempt α}
    {C : List Text → List Call → Prop}
    (hAsk : ∀ virtual resolved,
      s.resolver.lookup (host.raised state) virtual true = .ok resolved →
        (ask virtual resolved).Follows host state (.ok [resolved.real]) C) :
    Attempt.Follows (do
        let virtual ← Attempt.ofExcept (s.normalized path)
        let resolved ← s.resolver.find virtual true
        ask virtual resolved) host state
      ([path].mapM (s.translated (host.raised state))) C := by
  rw [List.mapM_cons, translated, bind_assoc]
  refine .bind ((Attempt.yields_ofExcept _).mpr ⟨rfl, rfl⟩) fun virtual _ => ?_
  rw [bind_assoc]
  exact .bind (s.resolver.yields_find virtual true host state) fun resolved hLookup =>
    hAsk virtual resolved hLookup

/-- Looking at an entry uses the translation, or the path without aliases for an alias. -/
theorem follows_lstat (hNormal : s.bypasses = false) (path : Text) :
    (s.lstat path).Follows host state ([path].mapM (s.translated (host.raised state)))
      (Request.lstat path).HandsOn := by
  rw [lstat, hNormal, if_neg Bool.false_ne_true]
  refine follows_normalized path fun virtual resolved hLookup => ?_
  have hLook := Attempt.yields_ask (.lstat resolved.real) host state
  dsimp only
  split
  · exact Attempt.follows_ok hLook (Or.inl rfl)
  -- the path could be looked up, so the test for an alias succeeds
  obtain ⟨placed, hPlaced⟩ := Resolver.exists_confine_of_lookup hLookup
  obtain ⟨isAlias, hAlias⟩ : ∃ isAlias, (s.isAlias virtual).Yields host state (.ok isAlias) [] := by
    have hTest := s.yields_isAlias virtual host state
    rw [hPlaced] at hTest
    split at hTest
    · exact ⟨_, hTest⟩
    · exact ⟨_, hTest⟩
  cases isAlias with
  | true => exact Attempt.follows_ok (hAlias.then hLook) (Or.inl rfl)
  | false =>
    cases hAnswer : (host.answer (.lstat resolved.real) state).1 with
    | error failure =>
      rw [hAnswer] at hLook
      exact Attempt.follows_ok (hAlias.then hLook.bind_error) (Or.inl rfl)
    | ok metadata =>
      rw [hAnswer] at hLook
      -- a link is followed, and what is no link is shown as it is
      obtain ⟨result, seen, hSecond, hSeen⟩ : ∃ result seen,
          Attempt.Yields (if metadata.fileType = .symlink then Attempt.ask (.stat resolved.real)
            else pure metadata) host (host.after state [.lstat resolved.real]) result seen ∧
          (seen = [] ∨ seen = [.stat resolved.real]) := by
        split
        · exact ⟨_, _, Attempt.yields_ask _ host _, Or.inr rfl⟩
        · exact ⟨_, _, (Attempt.yields_pure metadata).mpr ⟨rfl, rfl⟩, Or.inl rfl⟩
      refine Attempt.follows_ok (hAlias.then (hLook.bind hSecond)) ?_
      rcases hSeen with rfl | rfl
      · exact Or.inl rfl
      · exact Or.inr rfl

/-- Behind the call that moves the host nothing more is asked for. -/
theorem follows_chdir (hNormal : s.bypasses = false) (path : Text) :
    (s.chdir path).Follows host state ([path].mapM (s.translated (host.raised state)))
      (Request.chdir path).HandsOn := by
  rw [chdir, hNormal, if_neg Bool.false_ne_true]
  refine follows_normalized path fun virtual resolved _ => ?_
  have hMove := Attempt.yields_ask (.chdir resolved.real) host state
  cases hAnswer : (host.answer (.chdir resolved.real) state).1 with
  | error failure =>
    rw [hAnswer] at hMove
    exact Attempt.follows_ok hMove.bind_error rfl
  | ok _ =>
    rw [hAnswer] at hMove
    have hRest : Attempt.Every (do
        let cwd := s.resolver.stripBase (resolved.virtual.getD resolved.real)
        let resolver ← Attempt.ofExcept (s.resolver.setCwd cwd)
        Attempt.note (.directoryChanged (s.log.path cwd))
        return { s with resolver := resolver }) (fun _ => False) fun _ => True := by
      simp
    exact Attempt.follows_ok (hMove.bind ⟨rfl, Dialogue.calls_eq_nil hRest⟩) rfl

/-- The walk along links begins with a look at the path itself. -/
theorem exists_yields_followLinks (s : Session) (left : Nat) (real : Text)
    (rest : Text → Attempt α) (host : Host σ) (state : σ) : ∃ result later,
      Attempt.Yields (s.followLinks left real >>= rest) host state result
        (.lstat real :: later) := by
  cases left with
  | zero =>
    rw [followLinks]
    exact ⟨_, _, rfl, rfl⟩
  | succ left =>
    rw [followLinks]
    exact ⟨_, _, rfl, rfl⟩

/-- Opening a directory walks on from the translation. -/
theorem follows_opendir (hNormal : s.bypasses = false) (path : Text) :
    (s.opendir path).Follows host state ([path].mapM (s.translated (host.raised state)))
      (Request.opendir path).HandsOn := by
  rw [opendir, hNormal, if_neg Bool.false_ne_true]
  refine follows_normalized path fun virtual resolved _ => ?_
  obtain ⟨result, later, hWalk⟩ := s.exists_yields_followLinks s.resolver.limits.maxLinks
    resolved.real _ host state
  exact Attempt.follows_ok hWalk ⟨_, later, rfl, rfl⟩

/-- What happens to a directory that was opened does not matter to how the opening began. -/
theorem handsOn_opendir_append (path : Text) {reals : List Text}
    (h : (Request.opendir path).HandsOn reals calls) (more : List Call) :
    (Request.opendir path).HandsOn reals (calls ++ more) := by
  obtain ⟨real, later, hReals, rfl⟩ := h
  exact ⟨real, later ++ more, hReals, rfl⟩

-- ---------------------------------------------------------------------------
-- All requests
-- ---------------------------------------------------------------------------

/-- **Every request** that names paths, but for the deletion of an alias, is settled by their
translations. -/
theorem settles_perform (hs : s.Confined) (hPhase : s.phase = .normal) {request : Request}
    (hNamed : request.named ≠ [])
    (hOther : request.deletes = true → ∀ path ∈ request.named, ¬ s.NamesAlias path)
    (host : Host σ) (state : σ) :
    s.Settles (s.perform request) host state
      (request.named.mapM (s.translated (host.raised state))) request.HandsOn := by
  have hNormal := bypasses_eq_false hs hPhase
  have hAsk {call : Call} {reals : List Text} {C : List Text → List Call → Prop}
      (hCall : C reals [call]) : (Attempt.ask call).Follows host state (.ok reals) C :=
    Attempt.follows_ok (Attempt.yields_ask call host state) hCall
  cases request with
  | lstat path => exact settles_observe (follows_lstat hNormal path)
  | link source destination | symlink target entry | rename source destination =>
    exact settles_two_targets hs hNormal _ _ fun _ _ => hAsk rfl
  | rmdir path =>
    rw [perform, Session.rmdir, hNormal, if_neg Bool.false_ne_true]
    exact settles_observe <| follows_deletable (hOther rfl path List.mem_cons_self) fun _ => hAsk rfl
  | unlink path =>
    rw [perform, Session.unlink, Resolver.hasBase, hs.base]
    exact settles_observe <| follows_deletable (hOther rfl path List.mem_cons_self) fun _ => hAsk rfl
  | chdir path => exact settles_advance (follows_chdir hNormal path)
  | opendir path =>
    exact settles_bind (follows_opendir hNormal path) (fun _ => rfl)
      fun _ _ _ _ hFits => handsOn_opendir_append path hFits _
  | readDir path =>
    rw [perform, Session.readDir, bind_assoc]
    exact settles_bind (follows_opendir hNormal path) (fun _ => rfl)
      fun _ _ _ _ hFits => handsOn_opendir_append path hFits _
  | creat | readlink | readdir | entries | closedir | chroot | installAliases | configure
  | setPhase | teardown => exact absurd rfl hNamed
  | _ => exact settles_target hs hNormal _ fun _ => hAsk rfl

/--
**All requests translate their paths alike.** In every session that comes about, with a base and
while it serves its client, for every path and with the interrupt flag up or down: the real path of
the requested one is the lookup of its normalized form. Every request that names one path or two
translates all of them so, and then hands the real paths to the host in its calls. Where a path has
no translation, the request fails with that error, and the host was asked for nothing. For the
requests that delete, the path is to be no alias.
-/
theorem requests_translate (hReach : s.Reachable) {base : Text}
    (hBase : s.resolver.base = some base) (hPhase : s.phase = .normal) (host : Host σ)
    (state : σ) :
    (∀ path, (s.resolve path).Yields host state (s.translated (host.raised state) path) []) ∧
    ∀ request : Request, request.named ≠ [] →
      (request.deletes = true → ∀ path ∈ request.named, ¬ s.NamesAlias path) →
      let run := (s.perform request).run host state
      match request.named.mapM (s.translated (host.raised state)) with
      | .error e => run.value = (.error e, s) ∧ run.calls = []
      | .ok reals => request.HandsOn reals run.calls := by
  have hs : s.Confined := ⟨hReach.resolver.canonical, by rw [hBase]; rfl⟩
  refine ⟨fun path => yields_resolve hs path host state, fun request hNamed hOther => ?_⟩
  obtain ⟨hFails, hCalls⟩ := settles_perform hs hPhase hNamed hOther host state
  dsimp only
  split
  · rename_i e hError
    exact hFails e hError
  · rename_i reals hReals
    exact hCalls reals hReals

/-- Behind the alias and at the working directory, each in a spelling of its own. -/
theorem requests_translate_pub :
    pubSession.Reachable ∧
      ((pubSession.perform (.rename "./pub//a".toList ['.'])).run
        (({} : FixedHost).toHost) false).calls = [.rename "/var/pub/a".toList "/store/".toList] ∧
      ((pubSession.perform (.unlink "./pub//a".toList)).run (({} : FixedHost).toHost) false).calls =
        [.unlink "/var/pub/a".toList] := by
  obtain ⟨names, hNames⟩ := reachable_pubSession.resolver.baseNames
  have hVirtual : pubSession.normalized "./pub//a".toList = .ok "/pub/a".toList := by
    rw [normalized, Path.clean_eq_normal]
    rfl
  have hVirtualDot : pubSession.normalized ['.'] = .ok ['.'] := by
    rw [normalized, Path.clean_eq_normal]
    rfl
  have hPlaced : pubSession.resolver.confine false "/pub/a".toList =
      .ok "/store/pub/a".toList := by
    rw [Resolver.confine_eq_placement hNames, Resolver.placement, Path.clean_eq_normal]
    rfl
  have hBelow : pubSession.translated false "./pub//a".toList = .ok "/var/pub/a".toList := by
    rw [translated_of_normalized hVirtual, Resolver.lookup_true_of_confine hPlaced]
    rfl
  have hHere : pubSession.translated false ['.'] = .ok "/store/".toList := by
    rw [translated_of_normalized hVirtualDot, Resolver.lookup_dot rfl]
    have hRoot : pubSession.resolver.confine false pubSession.resolver.cwd =
        .ok "/store/".toList := by
      rw [Resolver.confine_eq_placement hNames, Resolver.placement, Path.clean_eq_normal]
      rfl
    rw [Resolver.lookup_true_of_confine hRoot]
    rfl
  have hOther : ¬ pubSession.NamesAlias "./pub//a".toList := by
    rintro ⟨placed, hUnaliased, hKey⟩
    rw [unaliased_of_normalized hVirtual, hPlaced] at hUnaliased
    obtain rfl := Except.ok.inj hUnaliased
    revert hKey
    decide
  have hDown : (({} : FixedHost).toHost).raised false = false := rfl
  obtain ⟨-, hTranslate⟩ :=
    requests_translate reachable_pubSession rfl rfl (({} : FixedHost).toHost) false
  refine ⟨reachable_pubSession, ?_, ?_⟩
  · have hReals : ["./pub//a".toList, ['.']].mapM (pubSession.translated false) =
        .ok ["/var/pub/a".toList, "/store/".toList] := by
      rw [List.mapM_cons, hBelow, List.mapM_cons, hHere]
      rfl
    have hRename := hTranslate (.rename "./pub//a".toList ['.']) (List.cons_ne_nil _ _) (by rintro ⟨⟩)
    dsimp only [Request.named] at hRename
    rw [hDown, hReals] at hRename
    exact hRename
  · have hReals : ["./pub//a".toList].mapM (pubSession.translated false) =
        .ok ["/var/pub/a".toList] := by
      rw [List.mapM_cons, hBelow]
      rfl
    have hUnlink := hTranslate (.unlink "./pub//a".toList) (List.cons_ne_nil _ _)
      fun _ path hPath => List.mem_singleton.mp hPath ▸ hOther
    dsimp only [Request.named] at hUnlink
    rw [hDown, hReals] at hUnlink
    exact hUnlink

end Session

end PathJail
