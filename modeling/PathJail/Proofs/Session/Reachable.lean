import PathJail.Proofs.Resolver.Reachable
import PathJail.Proofs.Session.OpenDirs

/-!
# What holds of every session

A request changes the resolver of a session only by the resolver's own operations, confines the
process together with giving a base, and makes at most one step of the table of open directories. So
what holds of such resolvers and such tables holds in every session.

* `Reachable`                — the sessions that come about.
* `Becomes`, `every_perform` — all that a request can make of a session.
* `Reachable.resolver`       — its resolver is one that the resolver's operations lead to.
* `Reachable.history`        — a list of requests, carried out with any host, leads to such a
  session.
-/

namespace PathJail.Session

variable {s : Session}

-- ---------------------------------------------------------------------------
-- The sessions that come about
-- ---------------------------------------------------------------------------

/-- The sessions that requests lead to, whatever the host answers on the way. Options, limits and
log can be given to a session at any time. -/
inductive Reachable : Session → Prop
  | new : Reachable Session.new
  | withOptions {s : Session} (options : Options) : Reachable s →
      Reachable { s with options := options }
  | withLimits {s : Session} (limits : Limits) : Reachable s →
      Reachable { s with resolver := s.resolver.setLimits limits }
  | withLog {s : Session} (log : LogConfig) : Reachable s → Reachable { s with log := log }
  | perform {s next : Session} (request : Request) {result : Except Error Answer} : Reachable s →
      (s.perform request).Ends (result, next) → Reachable next
  /-- Nothing is promised about the order in which the aliases are walked. -/
  | reorder {s : Session} (table : AliasTable) : Reachable s →
      table.entries.Perm s.resolver.aliases.entries →
        Reachable { s with resolver := { s.resolver with aliases := table } }

-- ---------------------------------------------------------------------------
-- Requests
-- ---------------------------------------------------------------------------

section

variable {C : Call → Prop} {Q : Except Error Answer × Session → Prop}

/-- A request that leaves the session as it is. -/
theorem every_observe {α : Type} {P : α → Prop} {wrap : α → Answer} {attempt : Attempt α}
    (h : attempt.Every C P) (hQ : ∀ result, Q (result, s)) :
    (s.observe wrap attempt).Every C Q := by
  rw [observe, Dialogue.every_bind]
  exact Dialogue.Every.mono h fun result _ => hQ _

/-- A request that changes the session if it succeeds. -/
theorem every_advance {P : Session → Prop} {attempt : Attempt Session}
    (h : attempt.Every C P) (hFail : ∀ e, Q (.error e, s))
    (hStep : ∀ next, P next → Q (.ok .done, next)) : (s.advance attempt).Every C Q := by
  rw [advance, Dialogue.every_bind]
  refine Dialogue.Every.mono h fun result hResult => ?_
  cases result with
  | error e => exact hFail e
  | ok next => exact hStep next (hResult next rfl)

end

-- ---------------------------------------------------------------------------
-- What a request may make of a session
-- ---------------------------------------------------------------------------

/-- The process is confined if and only if there is a base. -/
def Paired (s : Session) : Prop := s.chrootPath.isSome = s.resolver.base.isSome

/-- What a request may make of a session: its resolver is changed by the resolver's own operations,
base and process are confined together, and the open directories make one step. -/
structure Becomes (s : Session) (request : Request) (next : Session) : Prop where
  resolver : s.resolver.Reachable → next.resolver.Reachable
  paired : s.Paired → next.Paired
  dirs : s.dirs.Step request next.dirs

/-- The same of a session that keeps its open directories. -/
structure Renewed (s next : Session) : Prop where
  resolver : s.resolver.Reachable → next.resolver.Reachable
  paired : s.Paired → next.Paired
  dirs : next.dirs = s.dirs

/-- A session renews itself. -/
theorem renewed_self (s : Session) : s.Renewed s := ⟨id, id, rfl⟩

/-- One renewal after another is a renewal. -/
theorem Renewed.trans {next last : Session} (h : s.Renewed next) (hLast : next.Renewed last) :
    s.Renewed last :=
  ⟨hLast.resolver ∘ h.resolver, hLast.paired ∘ h.paired, hLast.dirs.trans h.dirs⟩

/-- A renewed session is what a request may leave. -/
theorem Renewed.becomes {next : Session} (h : s.Renewed next) (request : Request) :
    s.Becomes request next :=
  ⟨h.resolver, h.paired, h.dirs ▸ .same request⟩

theorem becomes_self (s : Session) (request : Request) : s.Becomes request s :=
  (renewed_self s).becomes request

theorem becomes_of_step {request : Request} {dirs : OpenDirs} (h : s.dirs.Step request dirs) :
    s.Becomes request { s with dirs := dirs } :=
  ⟨id, id, h⟩

/-- A change of the resolver that leaves the base. -/
theorem renewed_of_resolver {resolver : Resolver}
    (hReach : s.resolver.Reachable → resolver.Reachable)
    (hBase : resolver.base = s.resolver.base) : s.Renewed { s with resolver := resolver } where
  resolver := hReach
  paired := by
    intro hPaired
    rw [Paired, hBase]
    exact hPaired
  dirs := rfl

-- ---------------------------------------------------------------------------
-- Requests that set the session up
-- ---------------------------------------------------------------------------

/-- Another working directory renews the session. -/
theorem every_chdir (s : Session) (path : Text) :
    (s.chdir path).Every (fun _ => True) s.Renewed := by
  unfold chdir
  split
  · simp [renewed_self]
  · simp only [Attempt.every_bind, Attempt.every_ofExcept, Attempt.every_ask, Attempt.every_note,
      Attempt.every_pure, Resolver.every_find]
    intro virtual _ raised resolved _
    refine ⟨trivial, fun _ resolver hCwd => ?_⟩
    obtain ⟨-, -, hResolver⟩ := Resolver.setCwd_eq_ok_iff.mp hCwd
    exact renewed_of_resolver (fun h => .setCwd _ h hCwd) (by rw [← hResolver])

/-- A base that is installed was accepted. -/
theorem every_installBase {C : Call → Prop} (r : Resolver) (base : Text) :
    (r.installBase base).Every C fun next => r.setBase base = .ok next := by
  simp [Resolver.installBase]

theorem every_chroot (s : Session) (path : Text) :
    (s.chroot path).Every (fun _ => True) s.Renewed := by
  unfold chroot
  by_cases hEmpty : path = []
  · simp [hEmpty]
  cases hAbsolute : Path.isAbsolute path with
  | false => simp [hEmpty]
  | true =>
    simp only [if_neg hEmpty, Bool.not_true, Bool.false_eq_true, if_false]
    split
    · simp [renewed_self]
    simp only [Attempt.every_bind, Attempt.every_note, Attempt.every_pure]
    refine (Attempt.every_true _).mono fun confined _ => ?_
    refine (every_installBase s.resolver _).mono fun resolver hBase => ?_
    obtain ⟨-, -, hResolver⟩ := Resolver.setBase_eq_ok_iff.mp hBase
    exact ⟨fun h => .setBase _ h hBase, fun _ => by rw [Paired, ← hResolver]; rfl, rfl⟩

-- Aliases are registered one after the other. A condition on the session that each registration
-- keeps holds at the end, whichever of them were refused.

/-- What a registration keeps is kept by a configured alias, whether it is registered or refused. -/
theorem every_installAlias {C : Call → Prop} {P : Session → Prop} (h : P s)
    (report : AliasReport) (configured : AliasConfig)
    (hAdd : (s.resolver.addAlias configured.source configured.destination).Every C fun resolver =>
      P { s with resolver := resolver }) :
    (s.installAlias report configured).Every C fun installed => P installed.2 := by
  unfold installAlias
  rw [Dialogue.every_bind]
  refine Dialogue.Every.mono hAdd fun result hAdded => ?_
  split
  · exact hAdded _ rfl
  · simp [h]
  · simp [h]

/-- It is kept by a list of them. Induction on the list. -/
theorem every_installAliases {C : Call → Prop} {P : Session → Prop} (h : P s)
    (aliases : List AliasConfig)
    (hAdd : ∀ s source destination, P s →
      (s.resolver.addAlias source destination).Every C fun resolver =>
        P { s with resolver := resolver }) :
    (s.installAliases aliases).Every C fun installed => P installed.2 := by
  unfold installAliases
  split
  · suffices hFold : ∀ state : AliasReport × Session, P state.2 →
        (aliases.foldlM (fun (state : AliasReport × Session) configured =>
            state.2.installAlias state.1 configured) state).Every C
          fun installed => P installed.2 by
      exact hFold ({}, s) h
    induction aliases with
    | nil => exact fun state hState => hState
    | cons configured aliases ih =>
      intro state hState
      rw [List.foldlM_cons, Dialogue.every_bind]
      exact (every_installAlias hState state.1 configured (hAdd _ _ _ hState)).mono ih
  · split <;> simp [h]

/-- A configuration gives the settings, then the root, then the aliases. -/
theorem every_configure {P : Session → Prop} {config : Config}
    (hSettings : P { s with
      options := config.options
      log := config.log
      resolver := s.resolver.setLimits config.limits })
    (hChroot : ∀ s path, P s → (s.chroot path).Every (fun _ => True) P)
    (hAdd : ∀ s source destination, P s →
      (s.resolver.addAlias source destination).Every (fun _ => True) fun resolver =>
        P { s with resolver := resolver }) :
    (s.configure config).Every (fun _ => True) fun configured => P configured.2 := by
  unfold configure
  split
  · simp [hSettings]
  cases config.root with
  | none =>
    simp only [Dialogue.pure_eq, Dialogue.done_bind, Dialogue.every_bind]
    exact (every_installAliases hSettings config.aliases hAdd).mono fun _ => id
  | some root =>
    simp only [Dialogue.every_bind]
    refine Dialogue.Every.mono (hChroot _ root hSettings) fun result hConfined => ?_
    cases result with
    | error e => exact hSettings
    | ok confined =>
      rw [Dialogue.every_bind]
      exact (every_installAliases (hConfined confined rfl) config.aliases hAdd).mono fun _ => id

/-- A registration leaves the base. -/
theorem every_addAlias_base {C : Call → Prop} (r : Resolver) (source destination : Text) :
    (r.addAlias source destination).Every C fun next => next.base = r.base := by
  unfold Resolver.addAlias
  by_cases hEmpty : source = [] ∨ destination = []
  · simp [hEmpty]
  cases hAbsolute : Path.isAbsolute source with
  | false => simp [hEmpty]
  | true =>
    simp only [hEmpty, Bool.not_true, Bool.false_eq_true, if_false, Attempt.every_bind,
      Resolver.every_find]
    intro raised placed _ raisedInside inside _
    split <;> simp

theorem every_addAlias {next : Session} (h : s.Renewed next) (source destination : Text) :
    (next.resolver.addAlias source destination).Every (fun _ => True) fun resolver =>
      s.Renewed { next with resolver := resolver } := by
  refine (Attempt.every_ends _).mono fun resolver hEnds => ?_
  have hBase := (every_addAlias_base (C := fun _ => True) next.resolver source destination).ends
    hEnds resolver rfl
  exact h.trans (renewed_of_resolver (fun h => .addAlias source destination h hEnds) hBase)

-- ---------------------------------------------------------------------------
-- Requests that list directories
-- ---------------------------------------------------------------------------

/-- The names that are laid over a listing ascend. -/
theorem every_aliasNames {C : Call → Prop} (s : Session) (virtual real : Text) :
    (s.aliasNames virtual real).Every C fun names => names.Pairwise (· < ·) := by
  unfold aliasNames
  split
  · simp
  · simp only [Attempt.every_bind, Resolver.every_find]
    intro raised placed _
    split
    · simp only [Attempt.every_bind, Attempt.every_note, Attempt.every_pure]
      exact Text.pairwise_ascending _
    · exact (Attempt.every_pure _).mpr (Text.pairwise_ascending _)

/-- A directory that is opened has its record in the table. -/
theorem every_opendir (s : Session) (path : Text) :
    (s.opendir path).Every (fun _ => True) fun opened =>
      ∃ (real : Text) (listing : Listing) (names : List Text), names.Pairwise (· < ·) ∧
        opened = ((s.dirs.insert real listing names).1,
          { s with dirs := (s.dirs.insert real listing names).2 }) := by
  unfold opendir
  split
  · simp only [Attempt.every_bind, Attempt.every_pure]
    exact Attempt.every_ask.mpr ⟨trivial, fun listing => ⟨path, listing, [], .nil, rfl⟩⟩
  · simp only [Attempt.every_bind, Attempt.every_ofExcept, Resolver.every_find]
    intro virtual _ raised resolved _
    refine (Attempt.every_true _).mono fun real _ => Attempt.every_reply.mpr ⟨trivial, ?_⟩
    intro answer
    cases answer with
    | error failure => simp
    | ok listing =>
      simp only [Attempt.every_bind, Attempt.every_pure]
      refine (every_aliasNames s virtual real).mono fun names hNames => ?_
      exact ⟨real, listing, names, hNames, rfl⟩

/-- A read of an accepted handle takes the next of its record. -/
theorem readdir_of_get? {handle : DirHandle} {dir : OpenDir} (h : s.dirs.get? handle = some dir) :
    s.readdir handle = do
      Dialogue.notes dir.next.events
      return (dir.next.result.mapError .host,
        { s with dirs := s.dirs.set handle.slot dir.next.rest }) := by
  rw [readdir, h]

/-- A read makes a step of the table. -/
theorem every_readdir {C : Call → Prop} (s : Session) (handle : DirHandle) :
    (s.readdir handle).Every C fun read => s.Becomes (.readdir handle) read.2 := by
  cases hDir : s.dirs.get? handle with
  | none =>
    rw [readdir, hDir]
    exact becomes_self s _
  | some dir =>
    simp only [readdir_of_get? hDir, Dialogue.every_bind, Dialogue.every_notes]
    exact becomes_of_step (.read hDir)

/-- Reading on from an accepted handle takes all that is left of its record. -/
theorem entries_of_get? {handle : DirHandle} {dir : OpenDir} (h : s.dirs.get? handle = some dir) :
    s.entries handle = do
      Dialogue.notes dir.drain.events
      return (dir.drain.result.mapError .host,
        { s with dirs := s.dirs.set handle.slot dir.drain.rest }) := by
  rw [entries, h]

/-- Closing an accepted handle reports its path and empties its slot. -/
theorem closedir_of_get? {handle : DirHandle} {dir : OpenDir} (h : s.dirs.get? handle = some dir) :
    s.closedir handle = do
      Attempt.note (.directoryClosed (s.log.path dir.path))
      return { s with dirs := s.dirs.erase handle.slot } := by
  rw [closedir, OpenDirs.remove, h]
  rfl

theorem every_entries {C : Call → Prop} (s : Session) (handle : DirHandle) :
    (s.entries handle).Every C fun read => s.Becomes (.entries handle) read.2 := by
  cases hDir : s.dirs.get? handle with
  | none =>
    rw [entries, hDir]
    exact becomes_self s _
  | some dir =>
    simp only [entries_of_get? hDir, Dialogue.every_bind, Dialogue.every_notes]
    exact becomes_of_step (.drained hDir)

theorem every_closedir {C : Call → Prop} (s : Session) (handle : DirHandle) :
    (s.closedir handle).Every C (s.Becomes (.closedir handle)) := by
  cases hDir : s.dirs.get? handle with
  | none => simp [closedir, OpenDirs.remove, hDir]
  | some dir =>
    rw [closedir_of_get? hDir]
    simp only [Attempt.every_bind, Attempt.every_note, Attempt.every_pure]
    exact becomes_of_step (.closed hDir)

/-- The session with one more opening counted. -/
def counted (s : Session) : Session :=
  { s with dirs := { s.dirs with opened := s.dirs.opened + 1 } }

/-- **The directory that a listing has read can be closed**, and then the others are as before. The
opening made its record, and the reads left it there. -/
theorem closedir_of_listing {opened read : Session} {path : Text} {handle : DirHandle}
    {outcome : Except Error (List DirEntry)} {result : Except Error Session}
    (hOpened : (s.opendir path).run.Ends (.ok (handle, opened)))
    (hRead : (opened.entries handle).Ends (outcome, read))
    (hClosed : (read.closedir handle).run.Ends result) : result = .ok s.counted := by
  obtain ⟨real, listing, names, -, hMade⟩ := (every_opendir s path).ends hOpened _ rfl
  obtain ⟨rfl, rfl⟩ := Prod.mk.inj hMade
  have hRecord := s.dirs.get?_insert real listing names
  have hErased := s.dirs.erase_set_insert real listing names
  have hSlot : (s.dirs.insert real listing names).1.slot = s.dirs.vacantSlot := rfl
  generalize s.dirs.insert real listing names = inserted at hRecord hErased hSlot hRead hClosed
  obtain ⟨handle, dirs⟩ := inserted
  have hDrained : (entries { s with dirs := dirs } handle).Every (fun _ => True) fun outcome =>
      ∃ rest, outcome.2 = { s with dirs := dirs.set handle.slot rest } ∧
        (dirs.set handle.slot rest).get? handle = some rest := by
    rw [entries_of_get? (s := { s with dirs := dirs }) hRecord, Dialogue.every_bind,
      Dialogue.every_notes]
    exact ⟨_, rfl, OpenDirs.get?_set hRecord (OpenDir.drain_generation _)⟩
  obtain ⟨rest, hRest, hThere⟩ := hDrained.ends hRead
  obtain rfl : read = { s with dirs := dirs.set handle.slot rest } := hRest
  have hClosing : (closedir { s with dirs := dirs.set handle.slot rest } handle).run.Every
      (fun _ => True) fun result => result = .ok s.counted := by
    rw [closedir_of_get? (s := { s with dirs := dirs.set handle.slot rest }) hThere]
    show Except.ok _ = Except.ok s.counted
    rw [hSlot, hErased, counted]
  exact hClosing.ends hClosed

/-- All that a listing leaves, whatever became of it, is one more opening to count. -/
theorem every_readDir_counted (s : Session) (path : Text) :
    (s.readDir path).Every (fun _ => True) fun outcome =>
      outcome.2 = s ∨ outcome.2 = s.counted := by
  unfold readDir
  rw [Dialogue.every_bind]
  refine (Dialogue.every_ends _).mono fun result hOpened => ?_
  cases result with
  | error e => exact Or.inl rfl
  | ok made =>
    obtain ⟨handle, opened⟩ := made
    rw [Dialogue.every_bind]
    refine (Dialogue.every_ends _).mono fun outcome hRead => ?_
    rw [Dialogue.every_bind]
    refine (Dialogue.every_ends _).mono fun result hClosed => ?_
    obtain rfl := closedir_of_listing hOpened hRead hClosed
    exact Or.inr rfl

theorem every_readDir (s : Session) (path : Text) :
    (s.readDir path).Every (fun _ => True) fun read => s.Becomes (.readDir path) read.2 := by
  refine (every_readDir_counted s path).mono fun read hLeft => ?_
  rcases hLeft with hSame | hCounted
  · exact hSame ▸ becomes_self s _
  · exact hCounted ▸ becomes_of_step (.listed path)

-- ---------------------------------------------------------------------------
-- All requests
-- ---------------------------------------------------------------------------

/-- **All that a request can make of a session**, whatever the host answers. -/
theorem every_perform (s : Session) (request : Request) :
    (s.perform request).Every (fun _ => True) fun outcome => s.Becomes request outcome.2 := by
  unfold perform
  cases request with
  | chdir path =>
    exact every_advance (every_chdir s path) (fun _ => becomes_self s _) fun _ h => h.becomes _
  | closedir handle =>
    exact every_advance (every_closedir s handle) (fun _ => becomes_self s _) fun _ => id
  | chroot path =>
    exact every_advance (every_chroot s path) (fun _ => becomes_self s _) fun _ h => h.becomes _
  | opendir path =>
    rw [Dialogue.every_bind]
    refine Dialogue.Every.mono (every_opendir s path) fun result hOpened => ?_
    cases result with
    | error e => exact becomes_self s _
    | ok opened =>
      obtain ⟨real, listing, names, hNames, rfl⟩ := hOpened opened rfl
      exact becomes_of_step (.opened path real listing hNames)
  | readdir handle =>
    rw [Dialogue.every_bind]
    exact (every_readdir s handle).mono fun _ => id
  | entries handle =>
    rw [Dialogue.every_bind]
    exact (every_entries s handle).mono fun _ => id
  | readDir path =>
    rw [Dialogue.every_bind]
    exact (every_readDir s path).mono fun _ => id
  | installAliases aliases =>
    rw [Dialogue.every_bind]
    exact (every_installAliases (renewed_self s) aliases fun _ source destination h =>
      every_addAlias h source destination).mono fun _ h => h.becomes _
  | configure config =>
    rw [Dialogue.every_bind]
    refine (every_configure (P := s.Renewed) ⟨.setLimits _, id, rfl⟩ ?_ ?_).mono
      fun _ h => h.becomes _
    · exact fun next path h => (every_chroot next path).mono fun _ => h.trans
    · exact fun _ source destination h => every_addAlias h source destination
  | setPhase phase => exact ⟨id, id, .same _⟩
  | teardown => exact ⟨fun h => .resetCwd (.clearAliases (.clearBase h)), fun _ => rfl, .cleared⟩
  | _ => exact every_observe (Attempt.every_true _) fun _ => becomes_self s _

/-- The resolver of a session that comes about is one that does. -/
theorem Reachable.resolver (h : s.Reachable) : s.resolver.Reachable := by
  induction h with
  | new => exact .new {}
  | withOptions options _ ih => exact ih
  | withLimits limits _ ih => exact .setLimits limits ih
  | withLog log _ ih => exact ih
  | perform request _ hEnds ih => exact ((every_perform _ request).ends hEnds).resolver ih
  | reorder table _ hPerm ih => exact .reorder table ih hPerm

-- ---------------------------------------------------------------------------
-- Histories
-- ---------------------------------------------------------------------------

/-- All sessions along a history come about. -/
theorem every_history (h : s.Reachable) (requests : List Request) :
    (s.history requests).Every (fun _ => True) fun outcome => outcome.2.Reachable := by
  induction requests generalizing s with
  | nil => exact h
  | cons request requests ih =>
    rw [history, Dialogue.every_bind]
    refine (Dialogue.every_ends _).mono fun outcome hEnds => ?_
    rw [Dialogue.every_bind]
    exact (ih (.perform request h hEnds)).mono fun _ => id

/-- A history that a concrete host takes part in leads to a session that comes about. -/
theorem Reachable.history {σ : Type} (h : s.Reachable) (requests : List Request) (host : Host σ)
    (state : σ) : ((s.history requests).run host state).value.2.Reachable :=
  (every_history h requests).ends (Dialogue.ends_run host _ state)

end PathJail.Session
