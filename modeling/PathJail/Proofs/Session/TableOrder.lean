import Mathlib.Data.List.Sort
import PathJail.Host.Fixed
import PathJail.Proofs.Resolver.TableOrder
import PathJail.Proofs.Session.Listing
import PathJail.Proofs.Session.Relabelling
import PathJail.Proofs.Text.Order

/-!
# Sessions and the order of the aliases

Nothing is promised about the order in which the table of aliases is walked. Two sessions that
differ in that order only cannot be told apart by their clients, as long as no two aliases stand for
the same real path: a listing shows the aliases by name, and a link's target is taken to the alias
with the longest real path.

* `Reordered`               — the same session, with its table in another order.
* `SourcesDistinct`         — no two aliases stand for the same real path.
* `perform_withAliases`     — requests that register no alias.
* `alike_perform`           — one step: all requests.
* `alike_history`           — whole histories.
* `table_order_unseen`      — what a client sees does not depend on the order.
-/

namespace PathJail

namespace Session

variable {s t : Session} {table : AliasTable} {σ α : Type}

/-- The session with another table of aliases. -/
def withAliases (s : Session) (table : AliasTable) : Session :=
  { s with resolver := s.resolver.withAliases table }

/-- The same session, with its aliases in another order. -/
def Reordered (s t : Session) : Prop :=
  ∃ table : AliasTable, table.entries.Perm s.resolver.aliases.entries ∧ t = s.withAliases table

/-- No two aliases stand for the same real path. -/
def SourcesDistinct (s : Session) : Prop := (s.resolver.aliases.entries.map Prod.snd).Nodup

/-- A session is in its own order. -/
theorem reordered_refl (s : Session) : s.Reordered s := ⟨s.resolver.aliases, .refl _, rfl⟩

-- ---------------------------------------------------------------------------
-- Requested paths
-- ---------------------------------------------------------------------------

section

variable (h : table.entries.Perm s.resolver.aliases.entries)
include h

/-- Lookups are the same in any order of the aliases. -/
theorem find_withAliases : (s.withAliases table).resolver.find = s.resolver.find :=
  Resolver.find_withAliases h

theorem resolve_withAliases : (s.withAliases table).resolve = s.resolve := by
  funext path
  rw [resolve, resolve, find_withAliases h]
  rfl

theorem target_withAliases : (s.withAliases table).target = s.target := by
  funext path
  rw [target, target, resolve_withAliases h]
  rfl

theorem isAlias_withAliases : (s.withAliases table).isAlias = s.isAlias := by
  have hEmpty : (s.withAliases table).resolver.aliases.isEmpty = s.resolver.aliases.isEmpty :=
    AliasTable.isEmpty_of_perm h
  have hContains : (s.withAliases table).resolver.aliases.contains =
      s.resolver.aliases.contains := funext (AliasTable.contains_of_perm h)
  funext path
  rw [isAlias, isAlias, find_withAliases h, hEmpty, hContains]

theorem deletable_withAliases : (s.withAliases table).deletable = s.deletable := by
  funext path
  rw [deletable, deletable, find_withAliases h, isAlias_withAliases h]
  rfl

theorem lstat_withAliases : (s.withAliases table).lstat = s.lstat := by
  funext path
  rw [lstat, lstat, find_withAliases h, isAlias_withAliases h]
  rfl

theorem readlink_withAliases : (s.withAliases table).readlink = s.readlink := by
  funext path
  rw [readlink, readlink, find_withAliases h]
  rfl

theorem chdir_withAliases (path : Text) :
    (s.withAliases table).chdir path = (withAliases · table) <$> s.chdir path := by
  unfold chdir
  rw [find_withAliases h]
  show (if s.bypasses then _ else _) = _
  split
  · rw [map_bind]
    rfl
  simp only [map_bind]
  refine bind_congr fun virtual => bind_congr fun resolved => bind_congr fun _ => ?_
  have hCwd : (s.withAliases table).resolver.setCwd
      (s.resolver.stripBase (resolved.virtual.getD resolved.real)) = _ :=
    s.resolver.setCwd_withAliases table _
  show Attempt.ofExcept ((s.withAliases table).resolver.setCwd
    (s.resolver.stripBase (resolved.virtual.getD resolved.real))) >>= _ = _
  rw [hCwd]
  cases s.resolver.setCwd (s.resolver.stripBase (resolved.virtual.getD resolved.real)) <;> rfl

omit h

theorem chroot_withAliases (s : Session) (table : AliasTable) (path : Text) :
    (s.withAliases table).chroot path = (withAliases · table) <$> s.chroot path := by
  unfold chroot
  dsimp only
  split
  · rfl
  split
  · rfl
  split
  · rfl
  simp only [map_bind]
  refine bind_congr fun place => ?_
  obtain ⟨chrootPath, base⟩ := place
  have hInstall : (s.withAliases table).resolver.installBase (if base = [] then ['/'] else base) =
      _ := s.resolver.installBase_withAliases table _
  dsimp only
  rw [hInstall, bind_map_left]
  rfl

end

-- ---------------------------------------------------------------------------
-- Listings
-- ---------------------------------------------------------------------------

/-- The names in a listing are sorted, so that the same aliases make the same names. -/
theorem namesIn_of_perm {a b : AliasTable} (h : a.entries.Perm b.entries) (real virtual : Text) :
    namesIn a real virtual = namesIn b real virtual := by
  refine (Text.pairwise_ascending _).eq_of_mem_iff (Text.pairwise_ascending _) fun name => ?_
  exact mem_namesIn.trans (Iff.trans (by simp only [h.mem_iff]) mem_namesIn.symm)

section

variable (h : table.entries.Perm s.resolver.aliases.entries)
include h

/-- The names that are laid over a listing are the same in any order. -/
theorem aliasNames_withAliases : (s.withAliases table).aliasNames = s.aliasNames := by
  have hEmpty : (s.withAliases table).resolver.aliases.isEmpty = s.resolver.aliases.isEmpty :=
    AliasTable.isEmpty_of_perm h
  have hNames : namesIn (s.withAliases table).resolver.aliases = namesIn s.resolver.aliases := by
    funext real virtual
    exact namesIn_of_perm h real virtual
  funext virtual real
  rw [aliasNames, aliasNames, find_withAliases h, hEmpty, hNames]
  rfl

variable (hDistinct : s.SourcesDistinct)
include hDistinct

theorem linkTarget_withAliases : (s.withAliases table).linkTarget = s.linkTarget := by
  have hVirtual : (s.withAliases table).resolver.virtualPath? = s.resolver.virtualPath? :=
    Resolver.virtualPath?_withAliases h hDistinct
  funext real target
  rw [linkTarget, linkTarget, hVirtual]
  rfl

/-- Induction on the links that are left. -/
theorem followLinks_withAliases (left : Nat) (real : Text) :
    (s.withAliases table).followLinks left real = s.followLinks left real := by
  have hTarget := linkTarget_withAliases h hDistinct
  induction left generalizing real with
  | zero =>
    rw [followLinks, followLinks]
    rfl
  | succ left ih =>
    rw [followLinks, followLinks]
    simp only [ih, hTarget, find_withAliases h]
    rfl

/-- **An opening** is the same in any order. -/
theorem opendir_withAliases (path : Text) :
    (s.withAliases table).opendir path = Prod.map id (withAliases · table) <$> s.opendir path := by
  unfold opendir
  rw [find_withAliases h]
  simp only [followLinks_withAliases h hDistinct, aliasNames_withAliases h]
  show (if s.bypasses then _ else _) = _
  split
  · rw [map_bind]
    rfl
  simp only [map_bind]
  refine bind_congr fun virtual => bind_congr fun resolved => bind_congr fun real =>
    bind_congr fun answer => ?_
  cases answer with
  | error failure => rfl
  | ok listing =>
    rw [map_bind]
    rfl

end

theorem readdir_withAliases (s : Session) (table : AliasTable) (handle : DirHandle) :
    (s.withAliases table).readdir handle =
      Prod.map id (withAliases · table) <$> s.readdir handle := by
  cases hDir : s.dirs.get? handle with
  | none =>
    have hTable : (s.withAliases table).dirs.get? handle = none := hDir
    rw [readdir, readdir, hTable, hDir]
    rfl
  | some dir =>
    have hTable : (s.withAliases table).dirs.get? handle = some dir := hDir
    rw [readdir_of_get? hDir, readdir_of_get? hTable, map_bind]
    rfl

theorem entries_withAliases (s : Session) (table : AliasTable) (handle : DirHandle) :
    (s.withAliases table).entries handle =
      Prod.map id (withAliases · table) <$> s.entries handle := by
  cases hDir : s.dirs.get? handle with
  | none =>
    have hTable : (s.withAliases table).dirs.get? handle = none := hDir
    rw [entries, entries, hTable, hDir]
    rfl
  | some dir =>
    have hTable : (s.withAliases table).dirs.get? handle = some dir := hDir
    rw [entries_of_get? hDir, entries_of_get? hTable, map_bind]
    rfl

theorem closedir_withAliases (s : Session) (table : AliasTable) (handle : DirHandle) :
    (s.withAliases table).closedir handle = (withAliases · table) <$> s.closedir handle := by
  cases hDir : s.dirs.get? handle with
  | none =>
    have hTable : (s.withAliases table).dirs.get? handle = none := hDir
    rw [closedir, closedir, OpenDirs.remove, OpenDirs.remove, hTable, hDir]
    rfl
  | some dir =>
    have hTable : (s.withAliases table).dirs.get? handle = some dir := hDir
    rw [closedir_of_get? hDir, closedir_of_get? hTable, map_bind]
    rfl

theorem readDir_withAliases (h : table.entries.Perm s.resolver.aliases.entries)
    (hDistinct : s.SourcesDistinct) (path : Text) :
    (s.withAliases table).readDir path = Prod.map id (withAliases · table) <$> s.readDir path :=
  readDir_map (f := (withAliases · table)) (opendir_withAliases h hDistinct path)
    (fun opened => entries_withAliases opened table) fun read => closedir_withAliases read table

-- ---------------------------------------------------------------------------
-- Requests that register no alias
-- ---------------------------------------------------------------------------

end Session

/-- The request may register aliases. -/
def Request.registers : Request → Bool
  | .installAliases _ | .configure _ => true
  | _ => false

namespace Session

variable {s t : Session} {table : AliasTable} {σ α : Type}

/-- Requests that register no alias and keep those that there are go on alike. -/
theorem perform_withAliases (h : table.entries.Perm s.resolver.aliases.entries)
    (hDistinct : s.SourcesDistinct) {request : Request} (hRegisters : request.registers = false)
    (hKeeps : request ≠ .teardown) :
    (s.withAliases table).perform request =
      relabelled id (withAliases · table) <$> s.perform request := by
  have hObserve {α : Type} {wrap : α → Answer} {attempt other : Attempt α}
      (hSame : other = attempt) : (s.withAliases table).observe wrap other =
        relabelled id (withAliases · table) <$> s.observe wrap attempt :=
    observe_map (f := (withAliases · table)) (fun _ => rfl) hSame
  have hTarget := target_withAliases h
  have hDeletable := deletable_withAliases h
  cases request with
  | chdir path => exact advance_map rfl (chdir_withAliases h path)
  | chroot path => exact advance_map rfl (chroot_withAliases s table path)
  | closedir handle => exact advance_map rfl (closedir_withAliases s table handle)
  | opendir path =>
    exact opendir_map (f := (withAliases · table)) (g := id) (fun _ => rfl)
      (opendir_withAliases h hDistinct path)
  | readdir handle => exact answer_map (fun _ => rfl) (readdir_withAliases s table handle)
  | entries handle => exact answer_map (fun _ => rfl) (entries_withAliases s table handle)
  | readDir path => exact answer_map (fun _ => rfl) (readDir_withAliases h hDistinct path)
  | installAliases | configure => cases hRegisters
  | teardown => exact absurd rfl hKeeps
  | setPhase phase => rfl
  | creat path mode => rfl
  | lstat path => exact hObserve (by rw [lstat_withAliases h])
  | readlink path => exact hObserve (by rw [readlink_withAliases h])
  | rmdir path =>
    refine hObserve ?_
    rw [rmdir, rmdir, hDeletable]
    rfl
  | unlink path =>
    refine hObserve ?_
    rw [unlink, unlink, hDeletable]
    rfl
  | stat path => exact hObserve (by rw [stat, stat, hTarget])
  | openFile path => exact hObserve (by rw [openFile, openFile, hTarget])
  | truncate path length => exact hObserve (by rw [truncate, truncate, hTarget])
  | chmod path mode => exact hObserve (by rw [chmod, chmod, hTarget])
  | chown path uid gid => exact hObserve (by rw [chown, chown, hTarget])
  | lchown path uid gid => exact hObserve (by rw [lchown, lchown, hTarget])
  | utimes path accessed modified => exact hObserve (by rw [utimes, utimes, hTarget])
  | mkdir path mode => exact hObserve (by rw [mkdir, mkdir, hTarget])
  | link source destination => exact hObserve (by rw [link, link, hTarget])
  | symlink target link => exact hObserve (by rw [symlink, symlink, hTarget])
  | rename source destination => exact hObserve (by rw [rename, rename, hTarget])

/-- Such a request keeps the table as it is: it goes on alike with the table that there is. -/
theorem aliases_of_perform (hDistinct : s.SourcesDistinct) {request : Request}
    (hRegisters : request.registers = false) (hKeeps : request ≠ .teardown)
    {outcome : Except Error Answer × Session} (hEnds : (s.perform request).Ends outcome) :
    outcome.2.resolver.aliases = s.resolver.aliases := by
  have hSame : s.perform request = _ :=
    perform_withAliases (.refl s.resolver.aliases.entries) hDistinct hRegisters hKeeps
  rw [hSame] at hEnds
  obtain ⟨made, -, rfl⟩ := hEnds.of_map
  rfl

/-- What two sessions that differ in the order of their aliases may answer: the same, and they go
on differing in the order. -/
def SameAnswer {β : Type} (a b : β × Session) : Prop := a.1 = b.1 ∧ a.2.Reordered b.2

/-- A request that registers no alias goes alike, and there are still no two aliases for the same
real path. -/
theorem alike_perform_of_keeps (hOrder : s.Reordered t) (hDistinct : s.SourcesDistinct)
    {request : Request} (hRegisters : request.registers = false) :
    (s.perform request).Alike (fun a b => SameAnswer a b ∧ a.2.SourcesDistinct)
      (t.perform request) := by
  obtain ⟨table, hPerm, rfl⟩ := hOrder
  by_cases hKeeps : request = .teardown
  · subst hKeeps
    -- nothing is left of the table
    exact .note _ (.done ⟨⟨rfl, reordered_refl _⟩, List.nodup_nil⟩)
  · rw [perform_withAliases hPerm hDistinct hRegisters hKeeps]
    refine Dialogue.alike_map _ fun outcome hEnds => ?_
    have hTable := aliases_of_perform hDistinct hRegisters hKeeps hEnds
    refine ⟨⟨(relabelled_id_fst _ outcome).symm, table, ?_, rfl⟩, ?_⟩
    · rw [hTable]
      exact hPerm
    · rw [SourcesDistinct, hTable]
      exact hDistinct

-- ---------------------------------------------------------------------------
-- Registering aliases
-- ---------------------------------------------------------------------------

/-- One more alias is registered or refused in both orders alike. -/
theorem alike_installAlias (hOrder : s.Reordered t) (report : AliasReport)
    (configured : AliasConfig) :
    (s.installAlias report configured).Alike SameAnswer (t.installAlias report configured) := by
  obtain ⟨table, hPerm, rfl⟩ := hOrder
  have hAdd := Resolver.alike_addAlias hPerm configured.source configured.destination
  refine Dialogue.Alike.bind hAdd fun _ _ hResults => ?_
  cases hResults with
  | error e =>
    cases e <;> exact Dialogue.alike_bind _ fun _ => .done ⟨rfl, table, hPerm, rfl⟩
  | ok hNext =>
    obtain ⟨later, hLater, rfl⟩ := hNext
    exact .done ⟨rfl, later, hLater, rfl⟩

/-- Induction on the aliases. -/
theorem alike_installAliases (hOrder : s.Reordered t) (aliases : List AliasConfig) :
    (s.installAliases aliases).Alike SameAnswer (t.installAliases aliases) := by
  have hFold : ∀ {a b : AliasReport × Session}, SameAnswer a b →
      Dialogue.Alike SameAnswer
        (aliases.foldlM (fun state configured => state.2.installAlias state.1 configured) a)
        (aliases.foldlM (fun state configured => state.2.installAlias state.1 configured) b) := by
    induction aliases with
    | nil => exact fun h => .done h
    | cons configured aliases ih =>
      rintro ⟨report, first⟩ ⟨_, second⟩ ⟨rfl, hSessions⟩
      rw [List.foldlM_cons, List.foldlM_cons]
      exact (alike_installAlias hSessions report configured).bind fun _ _ hNext => ih hNext
  obtain ⟨table, hPerm, rfl⟩ := hOrder
  unfold installAliases
  show Dialogue.Alike _ (if s.resolver.hasBase then _ else _) (if s.resolver.hasBase then _ else _)
  split
  · exact hFold ⟨rfl, table, hPerm, rfl⟩
  · dsimp only
    split
    · exact Dialogue.alike_bind _ fun _ => .done ⟨rfl, table, hPerm, rfl⟩
    · exact .done ⟨rfl, table, hPerm, rfl⟩

theorem alike_chroot (hOrder : s.Reordered t) (path : Text) :
    (s.chroot path).Alike Reordered (t.chroot path) := by
  obtain ⟨table, hPerm, rfl⟩ := hOrder
  rw [Attempt.Alike, chroot_withAliases, ExceptT.run_map]
  refine Dialogue.alike_map _ fun result hEnds => ?_
  cases result with
  | error e => exact .error e
  | ok next =>
    have hSame : s.chroot path = _ := chroot_withAliases s s.resolver.aliases path
    rw [hSame, ExceptT.run_map] at hEnds
    obtain ⟨made, -, hMade⟩ := hEnds.of_map
    cases made with
    | error e => cases hMade
    | ok made =>
      obtain rfl := Except.ok.inj hMade
      exact .ok ⟨table, hPerm, rfl⟩

theorem alike_configure (hOrder : s.Reordered t) (config : Config) :
    (s.configure config).Alike SameAnswer (t.configure config) := by
  have hAliases {first second : Session} (h : first.Reordered second) :
      Dialogue.Alike SameAnswer
        (first.installAliases config.aliases >>= fun made =>
          return ((Except.ok made.1 : Except Error AliasReport), made.2))
        (second.installAliases config.aliases >>= fun made =>
          return (Except.ok made.1, made.2)) := by
    refine (alike_installAliases h config.aliases).bind fun a b hNext => ?_
    exact .done ⟨congrArg Except.ok hNext.1, hNext.2⟩
  obtain ⟨table, hPerm, rfl⟩ := hOrder
  let settings : Session := { s with
    options := config.options
    log := config.log
    resolver := s.resolver.setLimits config.limits }
  unfold configure
  dsimp only
  split
  · exact Dialogue.alike_bind _ fun _ => .done ⟨rfl, table, hPerm, rfl⟩
  cases config.root with
  | none => exact hAliases ⟨table, hPerm, rfl⟩
  | some root =>
    have hSettings : settings.Reordered (settings.withAliases table) := ⟨table, hPerm, rfl⟩
    refine Dialogue.Alike.bind (alike_chroot hSettings root) fun _ _ hResults => ?_
    cases hResults with
    | error e => exact .done ⟨rfl, hSettings⟩
    | ok hConfined => exact hAliases hConfined

/-- **One step.** Every request goes alike with the aliases in another order. -/
theorem alike_perform (hOrder : s.Reordered t) (hDistinct : s.SourcesDistinct)
    (request : Request) : (s.perform request).Alike SameAnswer (t.perform request) := by
  cases hRegisters : request.registers with
  | false =>
    exact (alike_perform_of_keeps hOrder hDistinct hRegisters).mono fun _ _ h => h.1
  | true =>
    cases request with
    | installAliases aliases =>
      refine (alike_installAliases hOrder aliases).bind fun a b hNext => ?_
      exact .done ⟨congrArg (Except.ok ∘ Answer.aliases) hNext.1, hNext.2⟩
    | configure config =>
      refine (alike_configure hOrder config).bind fun a b hNext => ?_
      exact .done ⟨congrArg (Except.map Answer.aliases) hNext.1, hNext.2⟩
    | _ => cases hRegisters

/-- **All steps.** So does every list of requests that register no alias. -/
theorem alike_history {requests : List Request}
    (hRegisters : ∀ request ∈ requests, request.registers = false) :
    ∀ {s t : Session}, s.Reordered t → s.SourcesDistinct →
      (s.history requests).Alike SameAnswer (t.history requests) := by
  induction requests with
  | nil => exact fun hOrder _ => .done ⟨rfl, hOrder⟩
  | cons request requests ih =>
    obtain ⟨hFirst, hRest⟩ := List.forall_mem_cons.mp hRegisters
    intro s t hOrder hDistinct
    refine (alike_perform_of_keeps hOrder hDistinct hFirst).bind ?_
    rintro ⟨result, next⟩ ⟨_, other⟩ ⟨⟨rfl, hNext⟩, hStill⟩
    refine (ih hRest hNext hStill).bind ?_
    rintro ⟨results, last⟩ ⟨_, otherLast⟩ ⟨rfl, hLast⟩
    exact .done ⟨rfl, hLast⟩

/--
**The order of the aliases cannot be seen.** Two sessions that differ in the order of their aliases
only, of which no two stand for the same real path: lookups give the same result and leave the same
events, and a real path is taken to the same alias. Every request is answered alike against every
host, with the same calls and events, leaves the host in the same state, and the sessions again
differ in the order of their aliases only. The same is true of every list of requests that register
no alias, from its first request to its last.
-/
theorem table_order_unseen (hOrder : s.Reordered t) (hDistinct : s.SourcesDistinct)
    (host : Host σ) (state : σ) :
    t.resolver.lookup = s.resolver.lookup ∧
      t.resolver.lookupEvents = s.resolver.lookupEvents ∧
      t.resolver.virtualPath? = s.resolver.virtualPath? ∧
      (∀ request : Request,
        let run := (s.perform request).run host state
        let other := (t.perform request).run host state
        run.value.1 = other.value.1 ∧ run.calls = other.calls ∧ run.events = other.events ∧
          run.state = other.state ∧ run.value.2.Reordered other.value.2) ∧
      ∀ requests : List Request, (∀ request ∈ requests, request.registers = false) →
        let run := (s.history requests).run host state
        let other := (t.history requests).run host state
        run.value.1 = other.value.1 ∧ run.calls = other.calls ∧ run.events = other.events ∧
          run.state = other.state ∧ run.value.2.Reordered other.value.2 := by
  refine ⟨?_, ?_, ?_, fun request => ?_, fun requests hRegisters => ?_⟩
  · obtain ⟨table, hPerm, rfl⟩ := hOrder
    exact Resolver.lookup_withAliases hPerm
  · obtain ⟨table, hPerm, rfl⟩ := hOrder
    exact Resolver.lookupEvents_withAliases hPerm
  · obtain ⟨table, hPerm, rfl⟩ := hOrder
    exact Resolver.virtualPath?_withAliases hPerm hDistinct
  · obtain ⟨⟨hAnswer, hNext⟩, hCalls, hEvents, hState⟩ :=
      (alike_perform hOrder hDistinct request).run host state
    exact ⟨hAnswer, hCalls, hEvents, hState, hNext⟩
  · obtain ⟨⟨hAnswers, hLast⟩, hCalls, hEvents, hState⟩ :=
      (alike_history hRegisters hOrder hDistinct).run host state
    exact ⟨hAnswers, hCalls, hEvents, hState, hLast⟩

/-- Two aliases, the real path of one of them below that of the other. -/
def nestedSession : Session :=
  pubSession.withAliases {
    entries := [("/store/pub".toList, "/var/pub".toList), ("/store/sub".toList, "/var/pub/a".toList)]
    keys_nodup := by decide }

/-- The same session with the aliases the other way round. -/
def swappedSession : Session :=
  pubSession.withAliases {
    entries := [("/store/sub".toList, "/var/pub/a".toList), ("/store/pub".toList, "/var/pub".toList)]
    keys_nodup := by decide }

/-- Behind both real paths, the nearer alias is taken in both orders. -/
theorem table_order_unseen_nested :
    nestedSession.Reordered swappedSession ∧ nestedSession.SourcesDistinct ∧
      swappedSession.resolver.virtualPath? "/var/pub/a/b".toList = some "/sub/b".toList := by
  have hOrder : nestedSession.Reordered swappedSession :=
    ⟨swappedSession.resolver.aliases, List.Perm.swap _ _ _, rfl⟩
  have hDistinct : nestedSession.SourcesDistinct := by
    unfold SourcesDistinct
    decide
  obtain ⟨-, -, hVirtual, -⟩ :=
    table_order_unseen hOrder hDistinct (({} : FixedHost).toHost) false
  refine ⟨hOrder, hDistinct, ?_⟩
  rw [hVirtual]
  rfl

end Session

end PathJail
