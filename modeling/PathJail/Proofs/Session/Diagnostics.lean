import PathJail.Host.Fixed
import PathJail.Proofs.Dialogue.Reports
import PathJail.Proofs.Log.Printable
import PathJail.Proofs.Resolver.Crossing
import PathJail.Proofs.Text.Lossy
import PathJail.Session.Request

/-!
# What a session reports

The requests of a session make the paths that they report fit for the log. The lookups and changes
of a resolver report their texts as they came, and so does a read that passes over an entry of the
host. So those reports are where a control character can get into the log, and the only ones.

* `reports_find`, `reports_addAlias`, `reports_installBase` — the reports of a resolver.
* `reports_perform`      — the reports of every request.
* `reports_fit`          — what control characters the log can show.
* `lookup_shows_line_break` — a line break that gets there.
-/

namespace PathJail

open Event (Fit)

/-- An event that shows its paths and names in the form of the log, and what follows it. -/
theorem reports_note_bind {α : Type} {event : Event} {rest : Unit → Attempt α}
    (hEvent : ∀ field ∈ event.record.fields, field.1 ≠ "error" → field.2.Printable)
    (hRest : ∀ u, (rest u).Reports Fit) : Attempt.Reports Fit (Attempt.note event >>= rest) :=
  Attempt.Reports.bind (Attempt.reports_note (Or.inr hEvent)) hRest

theorem reports_notes_bind {α : Type} {event : Event} {rest : Unit → Dialogue α}
    (hEvent : ∀ field ∈ event.record.fields, field.1 ≠ "error" → field.2.Printable)
    (hRest : ∀ u, (rest u).Reports Fit) : Dialogue.Reports Fit (Dialogue.notes [event] >>= rest) :=
  Dialogue.Reports.bind ⟨Or.inr hEvent, trivial⟩ hRest

-- ---------------------------------------------------------------------------
-- Resolvers
-- ---------------------------------------------------------------------------

namespace Resolver

variable (r : Resolver)

/-- **A lookup** reports the denial of a path in the form of the log, and all else as it came. -/
theorem fit_of_mem_lookupEvents (raised : Bool) (path : Text) (follow : Bool) :
    ∀ event ∈ r.lookupEvents raised path follow, event.Fit := by
  intro event hEvent
  have hCandidates : ∀ (search : Bool) (placed : Text),
      ∀ event ∈ if search then (r.tried placed).map Event.candidate else [], event.Fit := by
    intro search placed event hEvent
    split at hEvent
    · obtain ⟨candidate, -, rfl⟩ := List.mem_map.mp hEvent
      exact Or.inl rfl
    · exact absurd hEvent List.not_mem_nil
  unfold lookupEvents at hEvent
  split at hEvent
  · -- the one event that a refused path leaves
    obtain rfl := List.mem_singleton.mp hEvent
    exact Or.inr (by simp [Event.Printable, Event.record])
  · exact absurd hEvent List.not_mem_nil
  · dsimp only at hEvent
    split at hEvent
    · rcases List.mem_append.mp hEvent with hCandidate | hLast
      · exact hCandidates _ _ event hCandidate
      · obtain rfl := List.mem_singleton.mp hLast
        exact Or.inl rfl
    · split at hEvent
      · exact hCandidates _ _ event hEvent
      · rcases List.mem_append.mp hEvent with hCandidate | hLast
        · exact hCandidates _ _ event hCandidate
        · rcases List.mem_cons.mp hLast with rfl | hLookup
          · exact Or.inl rfl
          · obtain rfl := List.mem_singleton.mp hLookup
            exact Or.inl rfl

/-- A lookup that succeeds shows the path that it was made for, as it came. -/
theorem mem_lookupEvents {raised follow : Bool} {path : Text} {resolved : Resolved}
    (h : r.lookup raised path follow = .ok resolved) :
    .lookup path resolved.real ∈ r.lookupEvents raised path follow := by
  unfold lookup at h
  unfold lookupEvents
  cases hPlaced : r.confine raised path with
  | error e =>
    rw [hPlaced] at h
    cases h
  | ok placed =>
    rw [hPlaced] at h
    -- an empty table is not searched, and nothing would be found in it
    have hSearch : (if follow && !r.aliases.isEmpty then r.crossing? placed else none) =
        if follow then r.crossing? placed else none := by
      cases hTable : r.aliases.isEmpty with
      | true => simp [r.crossing?_of_isEmpty hTable placed]
      | false => simp
    dsimp only [bind, Except.bind] at h ⊢
    rw [hSearch]
    cases hCrossing : if follow then r.crossing? placed else none with
    | none =>
      rw [hCrossing] at h
      obtain rfl := Except.ok.inj h
      exact List.mem_append_right _ (List.mem_singleton.mpr rfl)
    | some real =>
      rw [hCrossing] at h
      dsimp only at h ⊢
      cases hLength : r.limits.check (Text.byteLength real) with
      | error e =>
        rw [hLength] at h
        cases h
      | ok _ =>
        rw [hLength] at h
        obtain rfl := Except.ok.inj h
        exact List.mem_append_right _ (List.mem_cons_of_mem _ (List.mem_singleton.mpr rfl))

theorem reports_find (path : Text) (follow : Bool) : (r.find path follow).Reports Fit := by
  unfold find
  refine Attempt.Reports.bind Attempt.reports_poll fun raised => ?_
  refine Attempt.Reports.bind ?_ fun _ => Attempt.reports_ofExcept _
  exact Attempt.reports_notes (r.fit_of_mem_lookupEvents raised path follow)

theorem reports_installBase (base : Text) : (r.installBase base).Reports Fit := by
  unfold installBase
  refine Attempt.Reports.bind (Attempt.reports_ofExcept _) fun installed => ?_
  refine Attempt.Reports.bind (Attempt.reports_note (Or.inl rfl)) fun _ => ?_
  exact Attempt.reports_pure _

theorem reports_addAlias (source destination : Text) :
    (r.addAlias source destination).Reports Fit := by
  unfold addAlias
  dsimp only
  split
  · exact Attempt.reports_throw_bind _ _
  split
  · exact Attempt.reports_throw_bind _ _
  refine Attempt.Reports.bind (r.reports_find _ _) fun key => ?_
  refine Attempt.Reports.bind (r.reports_find _ _) fun inside => ?_
  split
  · refine Attempt.Reports.bind (Attempt.reports_note (Or.inl rfl)) fun _ => ?_
    exact Attempt.reports_throw_bind _ _
  · refine Attempt.Reports.bind (Attempt.reports_ofExcept _) fun table => ?_
    refine Attempt.Reports.bind (Attempt.reports_note (Or.inl rfl)) fun _ => ?_
    exact Attempt.reports_pure _

end Resolver

-- ---------------------------------------------------------------------------
-- Open directories
-- ---------------------------------------------------------------------------

namespace OpenDir

variable {dir : OpenDir} {item : ListingItem} {event : Event}

/-- What the log is given of an item that reads pass over. Of any other it is given nothing. -/
def passed? (dir : OpenDir) : ListingItem → Option Event
  | .read (.error _) => none
  | .read (.ok entry) =>
    if dir.hides entry.name then some (.entryHidden dir.path entry.name) else none
  | .unnamed raw => some (.unreadableName (Text.lossy raw))

/-- The events of all that is passed over before there is something to give. -/
def passedOver (dir : OpenDir) : List Event :=
  (dir.pending.takeWhile fun item => (dir.passed? item).isSome).filterMap dir.passed?

/-- **One read** leaves these events. Induction on the host's items: one that is passed over leaves
its event in front of those of the items behind it, and any other ends the read. -/
theorem events_next (dir : OpenDir) : dir.next.events = dir.passedOver := by
  have key : ∀ pending : Listing, (next.go dir pending).events =
      (pending.takeWhile fun item => (dir.passed? item).isSome).filterMap dir.passed? := by
    intro pending
    induction pending with
    | nil =>
      rw [next.go]
      cases dir.aliases <;> rfl
    | cons item rest ih =>
      rcases item with ⟨failure | entry⟩ | raw
      · rfl
      · rw [next.go]
        by_cases hHidden : dir.hides entry.name = true
        · have hPassed : dir.passed? (.read (.ok entry)) =
              some (.entryHidden dir.path entry.name) := if_pos hHidden
          rw [if_pos hHidden, List.takeWhile_cons_of_pos (by simp [hPassed]),
            List.filterMap_cons_some hPassed, ← ih]
        · have hGiven : dir.passed? (.read (.ok entry)) = none := if_neg hHidden
          rw [if_neg hHidden, List.takeWhile_cons_of_neg (by simp [hGiven])]
          rfl
      · have hPassed : dir.passed? (.unnamed raw) = some (.unreadableName (Text.lossy raw)) := rfl
        rw [next.go, List.takeWhile_cons_of_pos (by simp [hPassed]),
          List.filterMap_cons_some hPassed, ← ih]
  exact key dir.pending

/-- What is passed over is shown as it came. -/
theorem verbatim_of_passed? (h : dir.passed? item = some event) : event.showsVerbatim = true := by
  rcases item with ⟨failure | entry⟩ | raw
  · cases h
  · rw [passed?] at h
    split at h
    · rw [← Option.some.inj h]
      rfl
    · cases h
  · rw [← Option.some.inj h]
    rfl

end OpenDir

-- ---------------------------------------------------------------------------
-- Requests on files
-- ---------------------------------------------------------------------------

namespace Session

variable (s : Session)

theorem reports_observe {α : Type} {wrap : α → Answer} {attempt : Attempt α}
    (h : attempt.Reports Fit) : (s.observe wrap attempt).Reports Fit :=
  Dialogue.Reports.bind h fun _ => trivial

theorem reports_advance {attempt : Attempt Session} (h : attempt.Reports Fit) :
    (s.advance attempt).Reports Fit := by
  refine Dialogue.Reports.bind h fun result => ?_
  cases result <;> exact trivial

/-- A path is resolved by a lookup, and that reports. -/
theorem reports_target (path : Text) : (s.target path).Reports Fit := by
  unfold target
  split
  · exact Attempt.reports_pure path
  unfold resolve
  dsimp only
  split
  · exact Attempt.reports_throw_bind _ _
  · exact Attempt.Reports.bind (s.resolver.reports_find _ _) fun _ => Attempt.reports_pure _

/-- A request that puts the real path in the place of the requested one. -/
theorem reports_target_bind {α : Type} {rest : Text → Attempt α} (path : Text)
    (hRest : ∀ real, (rest real).Reports Fit) : Attempt.Reports Fit (s.target path >>= rest) :=
  (s.reports_target path).bind hRest

theorem reports_isAlias (path : Text) : (s.isAlias path).Reports Fit := by
  unfold isAlias
  split
  · exact Attempt.reports_pure false
  · exact Attempt.Reports.bind (s.resolver.reports_find _ _) fun _ => Attempt.reports_pure _

/-- Looking at an entry reports its lookups. -/
theorem reports_lstat (path : Text) : (s.lstat path).Reports Fit := by
  unfold lstat
  dsimp only
  split
  · exact Attempt.reports_ask _
  refine Attempt.Reports.bind (Attempt.reports_ofExcept _) fun virtual => ?_
  refine Attempt.Reports.bind (s.resolver.reports_find _ _) fun resolved => ?_
  split
  · exact Attempt.reports_ask _
  refine Attempt.Reports.bind (s.reports_isAlias _) fun isAlias => ?_
  split
  · exact Attempt.reports_ask _
  refine Attempt.Reports.bind (Attempt.reports_ask _) fun metadata => ?_
  split
  · exact Attempt.reports_ask _
  · exact Attempt.reports_pure metadata

theorem reports_readlink (path : Text) : (s.readlink path).Reports Fit := by
  unfold readlink
  dsimp only
  split
  · exact Attempt.reports_ask _
  split
  · exact Attempt.reports_throw_bind _ _
  refine Attempt.Reports.bind (s.resolver.reports_find _ _) fun resolved => ?_
  split
  · exact Attempt.reports_ask _
  · refine Attempt.Reports.bind ?_ fun real => Attempt.reports_ask _
    exact Attempt.Reports.map (s.resolver.reports_find _ _) _

/-- An alias that was to be deleted is shown in the form of the log. -/
theorem reports_deletable (path : Text) : (s.deletable path).Reports Fit := by
  unfold deletable
  refine Attempt.Reports.bind (Attempt.reports_ofExcept _) fun virtual => ?_
  refine Attempt.Reports.bind (s.reports_isAlias _) fun isAlias => ?_
  split
  · refine reports_note_bind (by simp [Event.record]) fun _ => ?_
    exact Attempt.reports_throw_bind _ _
  · exact Attempt.Reports.bind (s.resolver.reports_find _ _) fun _ => Attempt.reports_pure _

theorem reports_rmdir (path : Text) : (s.rmdir path).Reports Fit := by
  unfold rmdir
  split
  · exact Attempt.reports_ask _
  · exact Attempt.Reports.bind (s.reports_deletable path) fun _ => Attempt.reports_ask _

theorem reports_unlink (path : Text) : (s.unlink path).Reports Fit := by
  unfold unlink
  split
  · exact Attempt.reports_ask _
  · exact Attempt.Reports.bind (s.reports_deletable path) fun _ => Attempt.reports_ask _

-- ---------------------------------------------------------------------------
-- Requests on directories
-- ---------------------------------------------------------------------------

theorem reports_chdir (path : Text) : (s.chdir path).Reports Fit := by
  unfold chdir
  dsimp only
  split
  · exact Attempt.Reports.bind (Attempt.reports_ask _) fun _ => Attempt.reports_pure s
  refine Attempt.Reports.bind (Attempt.reports_ofExcept _) fun virtual => ?_
  refine Attempt.Reports.bind (s.resolver.reports_find _ _) fun resolved => ?_
  refine Attempt.Reports.bind (Attempt.reports_ask _) fun _ => ?_
  refine Attempt.Reports.bind (Attempt.reports_ofExcept _) fun resolver => ?_
  exact reports_note_bind (by simp [Event.record]) fun _ => Attempt.reports_pure _

/-- Induction on the links that may still be followed. -/
theorem reports_followLinks (left : Nat) (real : Text) : (s.followLinks left real).Reports Fit := by
  induction left generalizing real with
  | zero =>
    rw [followLinks]
    refine Attempt.Reports.bind (Attempt.reports_reply _) fun answer => ?_
    cases answer with
    | error failure => exact Attempt.reports_pure real
    | ok metadata =>
      dsimp only
      split
      · exact Attempt.reports_pure real
      exact reports_note_bind (by simp [Event.record]) fun _ => Attempt.reports_throw _
  | succ left ih =>
    rw [followLinks]
    refine Attempt.Reports.bind (Attempt.reports_reply _) fun answer => ?_
    cases answer with
    | error failure => exact Attempt.reports_pure real
    | ok metadata =>
      dsimp only
      split
      · exact Attempt.reports_pure real
      refine Attempt.Reports.bind (Attempt.reports_ask _) fun link => ?_
      cases link with
      | bytes raw =>
        exact reports_note_bind (by simp [Event.record]) fun _ => Attempt.reports_throw _
      | text target =>
        refine reports_note_bind (by simp [Event.record]) fun _ => ?_
        exact Attempt.Reports.bind (s.resolver.reports_find _ _) fun resolved => ih resolved.real

theorem reports_aliasNames (virtual real : Text) : (s.aliasNames virtual real).Reports Fit := by
  unfold aliasNames
  dsimp only
  split
  · exact Attempt.reports_pure []
  refine Attempt.Reports.bind (s.resolver.reports_find _ _) fun placed => ?_
  split
  · exact reports_note_bind (by simp [Event.record]) fun _ => Attempt.reports_pure _
  · exact Attempt.reports_pure _

theorem reports_opendir (path : Text) : (s.opendir path).Reports Fit := by
  unfold opendir
  dsimp only
  split
  · exact Attempt.Reports.bind (Attempt.reports_ask _) fun listing => Attempt.reports_pure _
  refine Attempt.Reports.bind (Attempt.reports_ofExcept _) fun virtual => ?_
  refine Attempt.Reports.bind (s.resolver.reports_find _ _) fun resolved => ?_
  refine Attempt.Reports.bind (s.reports_followLinks _ _) fun real => ?_
  refine Attempt.Reports.bind (Attempt.reports_reply _) fun answer => ?_
  cases answer with
  | error failure =>
    exact reports_note_bind (by simp [Event.record]) fun _ => Attempt.reports_throw _
  | ok listing =>
    exact Attempt.Reports.bind (s.reports_aliasNames virtual real) fun names =>
      Attempt.reports_pure _

/-- A read reports nothing but what it passes over, and that as it came. -/
theorem verbatim_of_mem_events_next (dir : OpenDir) :
    ∀ event ∈ dir.next.events, event.showsVerbatim = true := by
  intro event hEvent
  rw [dir.events_next] at hEvent
  obtain ⟨item, -, hPassed⟩ := List.mem_filterMap.mp hEvent
  exact OpenDir.verbatim_of_passed? hPassed

/-- Reading on reports what each of the reads does. -/
theorem verbatim_of_mem_events_drain (dir : OpenDir) :
    ∀ event ∈ dir.drain.events, event.showsVerbatim = true := by
  fun_induction OpenDir.drain dir with
  | case1 dir failure h => exact verbatim_of_mem_events_next dir
  | case2 dir h => exact verbatim_of_mem_events_next dir
  | case3 dir entry h step ih =>
    intro event hEvent
    rcases List.mem_append.mp hEvent with hNow | hLater
    · exact verbatim_of_mem_events_next dir event hNow
    · exact ih event hLater

theorem reports_readdir (handle : DirHandle) : (s.readdir handle).Reports Fit := by
  unfold readdir
  split
  · exact trivial
  · rename_i dir hDir
    have hEvents : ∀ event ∈ dir.next.events, event.Fit := fun event hEvent =>
      Or.inl (verbatim_of_mem_events_next dir event hEvent)
    exact Dialogue.Reports.bind (Dialogue.reports_notes hEvents) fun _ => trivial

theorem reports_entries (handle : DirHandle) : (s.entries handle).Reports Fit := by
  unfold entries
  split
  · exact trivial
  · rename_i dir hDir
    have hEvents : ∀ event ∈ dir.drain.events, event.Fit := fun event hEvent =>
      Or.inl (verbatim_of_mem_events_drain dir event hEvent)
    exact Dialogue.Reports.bind (Dialogue.reports_notes hEvents) fun _ => trivial

/-- A directory that is closed is shown in the form of the log. -/
theorem reports_closedir (handle : DirHandle) : (s.closedir handle).Reports Fit := by
  unfold closedir
  split
  · exact Attempt.reports_throw _
  · rename_i dir dirs hRemoved
    exact reports_note_bind (by simp [Event.record]) fun _ => Attempt.reports_pure _

/-- A listing reports what opening, reading and closing do. -/
theorem reports_readDir (path : Text) : (s.readDir path).Reports Fit := by
  unfold readDir
  refine Dialogue.Reports.bind (s.reports_opendir path) fun result => ?_
  cases result with
  | error e => exact trivial
  | ok opened =>
    refine Dialogue.Reports.bind (opened.2.reports_entries opened.1) fun read => ?_
    refine Dialogue.Reports.bind (read.2.reports_closedir opened.1) fun closed => ?_
    cases closed <;> exact trivial

-- ---------------------------------------------------------------------------
-- Requests that set the session up
-- ---------------------------------------------------------------------------

/-- A server root that the host refuses, or that the path is not within, is shown in the form of the
log. -/
theorem reports_confineProcess (path : Text) : (s.confineProcess path).Reports Fit := by
  unfold confineProcess
  split
  · exact Attempt.reports_pure _
  rename_i serverRoot hServerRoot
  split
  · exact reports_note_bind (by simp [Event.record]) fun _ => Attempt.reports_pure _
  refine Attempt.Reports.bind (Attempt.reports_reply _) fun answer => ?_
  cases answer with
  | error failure =>
    exact reports_note_bind (by simp [Event.record]) fun _ => Attempt.reports_throw _
  | ok _ => exact Attempt.reports_pure _

theorem reports_chroot (path : Text) : (s.chroot path).Reports Fit := by
  unfold chroot
  dsimp only
  split
  · exact Attempt.reports_throw_bind _ _
  split
  · exact Attempt.reports_throw_bind _ _
  split
  · exact reports_note_bind (by simp [Event.record]) fun _ => Attempt.reports_pure s
  refine Attempt.Reports.bind (s.reports_confineProcess path) fun place => ?_
  refine Attempt.Reports.bind (s.resolver.reports_installBase _) fun resolver => ?_
  exact reports_note_bind (by simp [Event.record]) fun _ => Attempt.reports_pure _

/-- An alias that is refused is shown in the form of the log, behind the reports of its
registration. -/
theorem reports_installAlias (report : AliasReport) (configured : AliasConfig) :
    (s.installAlias report configured).Reports Fit := by
  unfold installAlias
  refine Dialogue.Reports.bind (s.resolver.reports_addAlias _ _) fun result => ?_
  split
  · exact trivial
  · exact reports_notes_bind (by simp [Event.record]) fun _ => trivial
  · exact reports_notes_bind (by simp [Event.record]) fun _ => trivial

theorem reports_installAliases (aliases : List AliasConfig) :
    (s.installAliases aliases).Reports Fit := by
  have hFold : ∀ state : AliasReport × Session,
      (aliases.foldlM (fun (state : AliasReport × Session) configured =>
        state.2.installAlias state.1 configured) state).Reports Fit := by
    induction aliases with
    | nil => exact fun _ => trivial
    | cons configured aliases ih =>
      intro state
      rw [List.foldlM_cons]
      exact Dialogue.Reports.bind (state.2.reports_installAlias _ _) ih
  unfold installAliases
  split
  · exact hFold ({}, s)
  · split
    · exact reports_notes_bind (by simp [Event.record]) fun _ => trivial
    · exact trivial

/-- A configuration reports what its root and its aliases do. -/
theorem reports_configure (config : Config) : (s.configure config).Reports Fit := by
  unfold configure
  dsimp only
  split
  · exact reports_notes_bind (by simp [Event.record]) fun _ => trivial
  split
  case' h_1 => refine Dialogue.Reports.bind trivial fun confined => ?_
  case' h_2 => refine Dialogue.Reports.bind (reports_chroot _ _) fun confined => ?_
  -- with a root or without one, the aliases come last
  all_goals
    cases confined with
    | error e => exact trivial
    | ok confined =>
      exact Dialogue.Reports.bind (confined.reports_installAliases _) fun _ => trivial

theorem reports_teardown : s.teardown.Reports Fit := by
  unfold teardown
  exact reports_notes_bind (by simp [Event.record]) fun _ => trivial

-- ---------------------------------------------------------------------------
-- All requests
-- ---------------------------------------------------------------------------

/-- **Every request** reports paths and names in the form of the log, or as they came. -/
theorem reports_perform (request : Request) : (s.perform request).Reports Fit := by
  unfold perform
  cases request with
  | lstat path => exact reports_observe s (s.reports_lstat path)
  | creat path mode => exact reports_observe s (Attempt.reports_throw _)
  | readlink path => exact reports_observe s (s.reports_readlink path)
  | link source destination | rename source destination | symlink source destination =>
    refine reports_observe s (s.reports_target_bind source fun first => ?_)
    exact s.reports_target_bind destination fun second => Attempt.reports_ask _
  | rmdir path => exact reports_observe s (s.reports_rmdir path)
  | unlink path => exact reports_observe s (s.reports_unlink path)
  | chdir path => exact reports_advance s (s.reports_chdir path)
  | closedir handle => exact reports_advance s (s.reports_closedir handle)
  | chroot path => exact reports_advance s (s.reports_chroot path)
  | opendir path =>
    refine Dialogue.Reports.bind (s.reports_opendir path) fun result => ?_
    cases result <;> exact trivial
  | readdir handle => exact Dialogue.Reports.bind (s.reports_readdir handle) fun _ => trivial
  | entries handle => exact Dialogue.Reports.bind (s.reports_entries handle) fun _ => trivial
  | readDir path => exact Dialogue.Reports.bind (s.reports_readDir path) fun _ => trivial
  | installAliases aliases =>
    exact Dialogue.Reports.bind (s.reports_installAliases aliases) fun _ => trivial
  | configure config => exact Dialogue.Reports.bind (s.reports_configure config) fun _ => trivial
  | setPhase phase => exact trivial
  | teardown => exact Dialogue.Reports.bind s.reports_teardown fun _ => trivial
  | _ =>
    exact reports_observe s (s.reports_target_bind _ fun real => Attempt.reports_ask _)

-- ---------------------------------------------------------------------------
-- The log of a run
-- ---------------------------------------------------------------------------

variable {s} {σ : Type}

/-- The events of a lookup are those that `lookupEvents` lists. -/
theorem events_find (r : Resolver) (path : Text) (follow : Bool) (host : Host σ) (state : σ) :
    ((r.find path follow).run.run host state).events =
      r.lookupEvents (host.raised state) path follow := by
  have hLogged := Attempt.events_notes_bind (r.lookupEvents (host.raised state) path follow)
    (fun _ => Attempt.ofExcept (r.lookup (host.raised state) path follow)) host state
  rw [show (Dialogue.run host (Attempt.ofExcept
    (r.lookup (host.raised state) path follow)).run state).events = [] from rfl,
    List.append_nil] at hLogged
  exact hLogged

/-- Every event of the run shows texts as they came, or is printable. -/
theorem fit_of_reports {α : Type} {d : Dialogue α} (h : d.Reports Fit) (host : Host σ)
    (state : σ) : ∀ event ∈ (d.run host state).events,
      event.showsVerbatim = false → event.Printable := by
  intro event hEvent hSanitized
  have hFit := h.run host state event hEvent
  rw [Event.Fit, hSanitized] at hFit
  exact hFit.resolve_left Bool.false_ne_true

/-- The events of a read are those of what it passes over. -/
theorem events_readdir {handle : DirHandle} {dir : OpenDir} (hDir : s.dirs.get? handle = some dir)
    (host : Host σ) (state : σ) :
    ((s.perform (.readdir handle)).run host state).events = dir.passedOver := by
  rw [perform, readdir, hDir]
  dsimp only
  rw [bind_assoc, Run.run_bind, Dialogue.run_notes, ← dir.events_next]
  exact List.append_nil _

/-- A byte that is a control character by itself shows as that in a name that is no text. -/
theorem not_printable_unreadableName {raw : List UInt8} {b : UInt8} (hb : b ∈ raw)
    (h : b.toNat < 0x80) (hControl : Text.isControl (Char.ofNat b.toNat) = true) :
    ¬ (Event.unreadableName (Text.lossy raw)).Printable := by
  intro hPrintable
  have hName : (Text.lossy raw).Printable :=
    hPrintable _ List.mem_cons_self (show "name" ≠ "error" by decide)
  have hShown := hName _ (Text.mem_lossy hb h)
  rw [hControl] at hShown
  cases hShown

/--
**What control characters the log can show.** Whatever is asked of a session or of its resolver, in
whatever state, and whatever the host answers:

* Each event shows printable paths and names, unless it is one of those that show texts as they
  came.
* And those do. Every lookup that succeeds leaves the path that it was made for in the log, control
  characters included.
* A read of a directory leaves an event of each entry that it passes over, in the order of the
  listing, and nothing else. An entry that an alias hides shows its name. One whose name is no text
  shows every control character that is a byte of its name.
-/
theorem reports_fit (s : Session) (host : Host σ) (state : σ) :
    (∀ request, ∀ event ∈ ((s.perform request).run host state).events,
      event.showsVerbatim = false → event.Printable) ∧
    (∀ path follow, ∀ event ∈ ((s.resolver.find path follow).run.run host state).events,
      event.showsVerbatim = false → event.Printable) ∧
    (∀ source destination,
      ∀ event ∈ ((s.resolver.addAlias source destination).run.run host state).events,
        event.showsVerbatim = false → event.Printable) ∧
    (∀ base, ∀ event ∈ ((s.resolver.installBase base).run.run host state).events,
      event.showsVerbatim = false → event.Printable) ∧
    (∀ path follow resolved, s.resolver.lookup (host.raised state) path follow = .ok resolved →
      .lookup path resolved.real ∈ ((s.resolver.find path follow).run.run host state).events ∧
        ((Event.lookup path resolved.real).Printable ↔
          path.Printable ∧ resolved.real.Printable)) ∧
    (∀ handle dir, s.dirs.get? handle = some dir →
      ((s.perform (.readdir handle)).run host state).events = dir.passedOver) ∧
    (∀ directory name, (Event.entryHidden directory name).Printable ↔
      directory.Printable ∧ name.Printable) ∧
    ∀ raw, ∀ b ∈ raw, b.toNat < 0x80 → Text.isControl (Char.ofNat b.toNat) = true →
      ¬ (Event.unreadableName (Text.lossy raw)).Printable := by
  refine ⟨fun request => ?_, fun path follow => ?_, fun source destination => ?_, fun base => ?_,
    fun path follow resolved hLookup => ⟨?_, ?_⟩, fun handle dir hDir => ?_,
    fun directory name => ?_, fun raw b hb hByte hControl => ?_⟩
  · exact fit_of_reports (s.reports_perform request) host state
  · exact fit_of_reports (s.resolver.reports_find path follow) host state
  · exact fit_of_reports (s.resolver.reports_addAlias source destination) host state
  · exact fit_of_reports (s.resolver.reports_installBase base) host state
  · rw [events_find]
    exact s.resolver.mem_lookupEvents hLookup
  · simp [Event.Printable, Event.record]
  · exact events_readdir hDir host state
  · simp [Event.Printable, Event.record]
  · exact not_printable_unreadableName hb hByte hControl

/-- A session with a directory open that has a line break in its path, and one in the name of an
entry that is no text. -/
def brokenLine : Session where
  dirs := {
    records := [(0, ⟨1, "/a\nb".toList, [.unnamed [0x61, 0x0A, 0x62, 0xFF]], []⟩)]
    opened := 1 }

/-- Without a base a path comes to itself. -/
theorem lookup_brokenLine (follow : Bool) :
    brokenLine.resolver.lookup false "/a\nb".toList follow =
      .ok ⟨"/a\nb".toList, none⟩ := by
  have hReach : brokenLine.resolver.Reachable := .new {}
  obtain ⟨names, hNames⟩ := hReach.baseNames
  have hPlaced : brokenLine.resolver.confine false "/a\nb".toList = .ok "/a\nb".toList := by
    rw [Resolver.confine_eq_placement hNames, Resolver.placement, Path.clean_eq_normal]
    rfl
  cases follow with
  | false =>
    rw [Resolver.lookup_false, hPlaced]
    rfl
  | true =>
    rw [Resolver.lookup, hPlaced]
    rfl

/-- The session shows the path escaped when it closes the directory. Its resolver does not, nor
does a read of the directory. -/
theorem reports_fit_brokenLine :
    (Event.directoryClosed "/a\\nb".toList).Printable ∧
      .lookup "/a\nb".toList "/a\nb".toList ∈
        ((brokenLine.resolver.find "/a\nb".toList false).run.run
          (({} : FixedHost).toHost) false).events ∧
      ((brokenLine.perform (.readdir ⟨0, 1⟩)).run (({} : FixedHost).toHost) false).events =
        [.unreadableName "a\nb\uFFFD".toList] ∧
      ¬ (Event.unreadableName "a\nb\uFFFD".toList).Printable := by
  obtain ⟨hPerform, -, -, -, hLookup, hReads, -, hRaw⟩ :=
    reports_fit brokenLine (({} : FixedHost).toHost) false
  refine ⟨hPerform (.closedir ⟨0, 1⟩) _ ?_ rfl, ?_, ?_, ?_⟩
  · exact List.mem_singleton.mpr rfl
  · exact (hLookup _ false _ (lookup_brokenLine false)).1
  · rw [hReads ⟨0, 1⟩ _ rfl]
    rfl
  · exact hRaw [0x61, 0x0A, 0x62, 0xFF] 0x0A (by decide) (by decide) (by decide)

/-- A path with a line break makes two lines of the log, and the client chose the second one. -/
theorem lookup_shows_line_break :
    ∃ event ∈ ((brokenLine.resolver.find "/a\nb".toList true).run.run
        (({} : FixedHost).toHost) false).events,
      ("requested", .text "/a\nb".toList) ∈ event.record.fields ∧
        ¬ Text.Printable "/a\nb".toList ∧ ¬ event.Printable := by
  have hBroken : ¬ Text.Printable "/a\nb".toList := by decide
  have hField : ("requested", .text "/a\nb".toList) ∈
      (Event.lookup "/a\nb".toList "/a\nb".toList).record.fields := List.mem_cons_self
  refine ⟨_, ?_, hField, hBroken, fun hPrintable => hBroken (hPrintable _ hField (by decide))⟩
  rw [events_find]
  exact Resolver.mem_lookupEvents _ (lookup_brokenLine true)

end Session

end PathJail
