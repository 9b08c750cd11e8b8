import PathJail.Proofs.Session.Handles
import PathJail.Proofs.Session.Relabelling

/-!
# Renumbering

The handles of a session carry the count of the openings. A session that starts counting later gives
out other handles and does everything else alike: nothing but the records is looked up by them.

* `DirHandle.later`, `DirHandle.earlier` — a handle, counted from elsewhere.
* `Session.later`         — a session whose count is ahead.
* `perform_later`         — it serves renamed requests with renamed answers.
* `perform_later_earlier` — the same for any request.
-/

namespace PathJail

-- ---------------------------------------------------------------------------
-- Names
-- ---------------------------------------------------------------------------

/-- The handle that a count which is ahead gives out in the place of this one. -/
def DirHandle.later (ahead : Nat) (handle : DirHandle) : DirHandle :=
  ⟨handle.slot, handle.generation + ahead⟩

/-- The handle that this one stands for. One that was given out before the count began stands for
none that is given out. -/
def DirHandle.earlier (ahead : Nat) (handle : DirHandle) : DirHandle :=
  ⟨handle.slot, handle.generation - ahead⟩

/-- A request about another handle. -/
def Request.mapHandle (f : DirHandle → DirHandle) : Request → Request
  | .readdir handle => .readdir (f handle)
  | .entries handle => .entries (f handle)
  | .closedir handle => .closedir (f handle)
  | request => request

def Answer.mapHandle (f : DirHandle → DirHandle) : Answer → Answer
  | .handle given => .handle (f given)
  | answer => answer

/-- A request with another handle is about that one. -/
theorem Request.handle?_mapHandle (request : Request) (f : DirHandle → DirHandle) :
    (request.mapHandle f).handle? = request.handle?.map f := by
  cases request <;> rfl

/-- Handles that are changed back make the same request. -/
theorem Request.mapHandle_mapHandle {request : Request} {f g : DirHandle → DirHandle}
    (h : ∀ handle, request.handle? = some handle → g (f handle) = handle) :
    (request.mapHandle f).mapHandle g = request := by
  cases request with
  | readdir handle => exact congrArg Request.readdir (h handle rfl)
  | entries handle => exact congrArg Request.entries (h handle rfl)
  | closedir handle => exact congrArg Request.closedir (h handle rfl)
  | _ => rfl

-- ---------------------------------------------------------------------------
-- Open directories
-- ---------------------------------------------------------------------------

namespace OpenDir

/-- A directory that was opened by a count that is ahead. -/
def later (ahead : Nat) (dir : OpenDir) : OpenDir :=
  { dir with generation := dir.generation + ahead }

/-- A read takes the same from a directory that counts as a later opening. -/
theorem next_later (ahead : Nat) (dir : OpenDir) :
    (dir.later ahead).next = ⟨dir.next.events, dir.next.result, dir.next.rest.later ahead⟩ := by
  have key : ∀ pending : Listing, next.go (dir.later ahead) pending =
      ⟨(next.go dir pending).events, (next.go dir pending).result,
        (next.go dir pending).rest.later ahead⟩ := by
    intro pending
    induction pending with
    | nil =>
      obtain ⟨generation, path, before, names⟩ := dir
      cases names <;> rfl
    | cons item rest ih =>
      cases item with
      | unnamed raw =>
        rw [next.go, next.go, ih]
      | read result =>
        cases result with
        | error failure => rfl
        | ok entry =>
          rw [next.go, next.go]
          by_cases hHidden : dir.hides entry.name = true
          · have hLater : (dir.later ahead).hides entry.name = true := hHidden
            rw [if_pos hHidden, if_pos hLater, ih]
            rfl
          · have hLater : ¬ (dir.later ahead).hides entry.name = true := hHidden
            rw [if_neg hHidden, if_neg hLater]
            rfl
  exact key dir.pending

theorem drain_of_error {dir : OpenDir} {failure : HostError}
    (h : dir.next.result = .error failure) :
    dir.drain = ⟨dir.next.events, .error failure, dir.next.rest⟩ := by
  rw [drain]
  split <;> simp_all

theorem drain_of_end {dir : OpenDir} (h : dir.next.result = .ok none) :
    dir.drain = ⟨dir.next.events, .ok [], dir.next.rest⟩ := by
  rw [drain]
  split <;> simp_all

theorem drain_of_entry {dir : OpenDir} {entry : DirEntry}
    (h : dir.next.result = .ok (some entry)) :
    dir.drain = ⟨dir.next.events ++ dir.next.rest.drain.events,
      dir.next.rest.drain.result.map (entry :: ·), dir.next.rest.drain.rest⟩ := by
  rw [drain]
  split <;> simp_all

theorem drain_later (ahead : Nat) (dir : OpenDir) :
    (dir.later ahead).drain =
      ⟨dir.drain.events, dir.drain.result, dir.drain.rest.later ahead⟩ := by
  have hNext (dir : OpenDir) : (dir.later ahead).next.result = dir.next.result := by
    rw [next_later]
  fun_induction drain dir with
  | case1 dir failure h => rw [drain_of_error ((hNext dir).trans h), next_later]
  | case2 dir h => rw [drain_of_end ((hNext dir).trans h), next_later]
  | case3 dir entry h step ih => rw [drain_of_entry ((hNext dir).trans h), next_later, ih]

end OpenDir

namespace OpenDirs

variable {dirs : OpenDirs} (ahead : Nat)

/-- A table whose count is ahead. -/
def later (ahead : Nat) (dirs : OpenDirs) : OpenDirs where
  records := dirs.records.map fun record => (record.1, record.2.later ahead)
  opened := dirs.opened + ahead

/-- The slots are the same. -/
theorem lookup_later (dirs : OpenDirs) (slot : Nat) :
    (dirs.later ahead).records.lookup slot =
      (dirs.records.lookup slot).map (OpenDir.later ahead) := by
  rw [later]
  induction dirs.records with
  | nil => rfl
  | cons record records ih =>
    rw [List.map_cons, List.lookup_cons, List.lookup_cons, ih]
    cases slot == record.1 <;> rfl

theorem vacantSlot_later (dirs : OpenDirs) : (dirs.later ahead).vacantSlot = dirs.vacantSlot := by
  have hVacant : (dirs.later ahead).isVacant = dirs.isVacant := by
    funext slot
    rw [isVacant, isVacant, lookup_later, Option.isNone_map]
  have hSize : (dirs.later ahead).size = dirs.size := List.length_map _
  rw [vacantSlot, vacantSlot, hVacant, hSize]

/-- An opening counts from where the count is. -/
theorem insert_later (dirs : OpenDirs) (path : Text) (listing : Listing) (names : List Text) :
    (dirs.later ahead).insert path listing names =
      ((dirs.insert path listing names).1.later ahead,
        (dirs.insert path listing names).2.later ahead) := by
  have hCount : dirs.opened + ahead + 1 = dirs.opened + 1 + ahead := by omega
  rw [insert, vacantSlot_later]
  simp only [insert, insertAt, later, hCount]
  rfl

theorem get?_later (dirs : OpenDirs) (handle : DirHandle) :
    (dirs.later ahead).get? (handle.later ahead) =
      (dirs.get? handle).map (OpenDir.later ahead) := by
  rw [get?, get?, DirHandle.later, lookup_later]
  cases dirs.records.lookup handle.slot with
  | none => rfl
  | some dir =>
    have hGeneration : (dir.later ahead).generation = handle.generation + ahead ↔
        dir.generation = handle.generation := Nat.add_right_cancel_iff
    simp only [Option.map_some, Option.filter_some, hGeneration]
    split <;> rfl

/-- A handle from before the count has none. -/
theorem get?_later_of_lt {ahead : Nat} (dirs : OpenDirs) {handle : DirHandle}
    (h : handle.generation < ahead) : (dirs.later ahead).get? handle = none := by
  rw [get?, lookup_later]
  cases dirs.records.lookup handle.slot with
  | none => rfl
  | some dir =>
    have hGeneration : (dir.later ahead).generation ≠ handle.generation := by
      show dir.generation + ahead ≠ handle.generation
      omega
    simp [hGeneration]

/-- The openings are counted from one. -/
def Numbered (dirs : OpenDirs) : Prop := ∀ slot, dirs.get? ⟨slot, 0⟩ = none

/-- **One exchange** leaves no record that the count is behind. -/
theorem Numbered.serves {exchange : Exchange} {next : OpenDirs} (h : dirs.Numbered)
    (hServes : dirs.Serves exchange next) : next.Numbered :=
  fun slot => hServes.stays_closed (h slot) (Nat.zero_le _)

theorem set_later (dirs : OpenDirs) (slot : Nat) (dir : OpenDir) :
    (dirs.later ahead).set slot (dir.later ahead) = (dirs.set slot dir).later ahead := by
  simp only [set, later, List.map_map]
  refine congrArg (OpenDirs.mk · _) (List.map_congr_left fun record _ => ?_)
  by_cases hSlot : record.1 = slot <;> simp [hSlot]

theorem erase_later (dirs : OpenDirs) (slot : Nat) :
    (dirs.later ahead).erase slot = (dirs.erase slot).later ahead := by
  simp only [erase, later, List.filter_map]
  rfl

end OpenDirs

-- ---------------------------------------------------------------------------
-- Sessions
-- ---------------------------------------------------------------------------

namespace Session

variable (ahead : Nat) (s : Session)

/-- A session whose count of openings is ahead. -/
def later (ahead : Nat) (s : Session) : Session := { s with dirs := s.dirs.later ahead }

/-- The outcome of a request that the count is ahead in. -/
def outcomeLater (ahead : Nat) (outcome : Except Error Answer × Session) :
    Except Error Answer × Session :=
  (outcome.1.map (Answer.mapHandle (DirHandle.later ahead)), outcome.2.later ahead)

/-- The count of the openings does not matter to a change of the working directory. -/
theorem chdir_later (path : Text) :
    (s.later ahead).chdir path = later ahead <$> s.chdir path := by
  unfold chdir
  show (if s.bypasses then _ else _) = _
  split
  · rw [map_bind]
    rfl
  · simp only [map_bind, map_pure]
    rfl

theorem chroot_later (path : Text) :
    (s.later ahead).chroot path = later ahead <$> s.chroot path := by
  unfold chroot
  dsimp only
  split
  · rfl
  split
  · rfl
  split
  · rfl
  · simp only [map_bind, map_pure]
    rfl

theorem installAlias_later (report : AliasReport) (configured : AliasConfig) :
    (s.later ahead).installAlias report configured =
      Prod.map id (later ahead) <$> s.installAlias report configured := by
  rw [installAlias, installAlias, map_bind]
  refine bind_congr fun result => ?_
  split <;> rfl

/-- Induction on the aliases. -/
theorem installAliases_later (aliases : List AliasConfig) :
    (s.later ahead).installAliases aliases =
      Prod.map id (later ahead) <$> s.installAliases aliases := by
  have hFold : ∀ state : AliasReport × Session,
      aliases.foldlM (fun (state : AliasReport × Session) configured =>
          state.2.installAlias state.1 configured) (Prod.map id (later ahead) state) =
        Prod.map id (later ahead) <$> aliases.foldlM
          (fun (state : AliasReport × Session) configured =>
            state.2.installAlias state.1 configured) state := by
    induction aliases with
    | nil => exact fun _ => rfl
    | cons configured aliases ih =>
      intro state
      have hFirst := installAlias_later ahead state.2 state.1 configured
      rw [List.foldlM_cons, List.foldlM_cons, map_bind]
      refine (congrArg (· >>= _) hFirst).trans ?_
      rw [bind_map_left]
      exact bind_congr ih
  unfold installAliases
  show (if s.resolver.hasBase then _ else _) = _
  split
  · exact hFold ({}, s)
  · split <;> rfl

theorem configure_later (config : Config) :
    (s.later ahead).configure config = Prod.map id (later ahead) <$> s.configure config := by
  have hAliases (confined : Session) :
      ((confined.later ahead).installAliases config.aliases >>= fun installed =>
          pure (Except.ok installed.1, installed.2)) =
        Prod.map id (later ahead) <$> (confined.installAliases config.aliases >>= fun installed =>
          (pure (Except.ok installed.1, installed.2) :
            Dialogue (Except Error AliasReport × Session))) := by
    rw [installAliases_later, bind_map_left, map_bind]
    rfl
  let settings : Session := { s with
    options := config.options
    log := config.log
    resolver := s.resolver.setLimits config.limits }
  unfold configure
  dsimp only
  split
  · rfl
  cases config.root with
  | none =>
    dsimp only
    rw [pure_bind, pure_bind]
    exact hAliases settings
  | some root =>
    dsimp only
    show ((settings.later ahead).chroot root).run >>= _ = _ <$> ((settings.chroot root).run >>= _)
    rw [chroot_later, ExceptT.run_map, bind_map_left, map_bind]
    refine bind_congr fun result => ?_
    cases result with
    | error e => rfl
    | ok confined => exact hAliases confined

theorem followLinks_later (left : Nat) (real : Text) :
    (s.later ahead).followLinks left real = s.followLinks left real := by
  induction left generalizing real with
  | zero =>
    rw [followLinks, followLinks]
    rfl
  | succ left ih =>
    rw [followLinks, followLinks]
    simp only [ih]
    rfl

/-- **An opening** gives out the later handle. -/
theorem opendir_later (path : Text) :
    (s.later ahead).opendir path =
      Prod.map (DirHandle.later ahead) (later ahead) <$> s.opendir path := by
  have hInsert (real : Text) (listing : Listing) (names : List Text) :=
    s.dirs.insert_later ahead real listing names
  unfold opendir
  dsimp only
  show (if s.bypasses then _ else _) = _
  split
  · rw [map_bind]
    refine bind_congr fun listing => ?_
    show pure (((s.dirs.later ahead).insert path listing []).1,
      { s with dirs := ((s.dirs.later ahead).insert path listing []).2 }) = _
    rw [hInsert]
    rfl
  · simp only [map_bind, followLinks_later]
    refine bind_congr fun virtual => bind_congr fun resolved => bind_congr fun real =>
      bind_congr fun answer => ?_
    cases answer with
    | error failure => rfl
    | ok listing =>
      rw [map_bind]
      refine bind_congr fun names => ?_
      show pure (((s.dirs.later ahead).insert real listing names).1,
        { s with dirs := ((s.dirs.later ahead).insert real listing names).2 }) = _
      rw [hInsert]
      rfl

/-- A read with the later handle gives the same. -/
theorem readdir_later (handle : DirHandle) :
    (s.later ahead).readdir (handle.later ahead) =
      Prod.map id (later ahead) <$> s.readdir handle := by
  have hGet : (s.later ahead).dirs.get? (handle.later ahead) = _ := s.dirs.get?_later ahead handle
  cases hDir : s.dirs.get? handle with
  | none =>
    rw [hDir] at hGet
    rw [readdir, readdir, hGet, hDir]
    rfl
  | some dir =>
    rw [hDir] at hGet
    rw [readdir_of_get? hDir, readdir_of_get? hGet, map_bind, OpenDir.next_later]
    refine bind_congr fun _ => ?_
    show pure (_, { s with dirs := (s.dirs.later ahead).set handle.slot _ }) = _
    rw [OpenDirs.set_later]
    rfl

theorem entries_later (handle : DirHandle) :
    (s.later ahead).entries (handle.later ahead) =
      Prod.map id (later ahead) <$> s.entries handle := by
  have hGet : (s.later ahead).dirs.get? (handle.later ahead) = _ := s.dirs.get?_later ahead handle
  cases hDir : s.dirs.get? handle with
  | none =>
    rw [hDir] at hGet
    rw [entries, entries, hGet, hDir]
    rfl
  | some dir =>
    rw [hDir] at hGet
    rw [entries_of_get? hDir, entries_of_get? hGet, map_bind, OpenDir.drain_later]
    refine bind_congr fun _ => ?_
    show pure (_, { s with dirs := (s.dirs.later ahead).set handle.slot _ }) = _
    rw [OpenDirs.set_later]
    rfl

theorem closedir_later (handle : DirHandle) :
    (s.later ahead).closedir (handle.later ahead) = later ahead <$> s.closedir handle := by
  have hGet : (s.later ahead).dirs.get? (handle.later ahead) = _ := s.dirs.get?_later ahead handle
  cases hDir : s.dirs.get? handle with
  | none =>
    rw [hDir] at hGet
    rw [closedir, closedir, OpenDirs.remove, OpenDirs.remove, hGet, hDir]
    rfl
  | some dir =>
    rw [hDir] at hGet
    rw [closedir_of_get? hDir, closedir_of_get? hGet, map_bind]
    refine bind_congr fun _ => ?_
    show pure { s with dirs := (s.dirs.later ahead).erase handle.slot } = _
    rw [OpenDirs.erase_later]
    rfl

/-- A listing is the same, and leaves the later count. -/
theorem readDir_later (path : Text) :
    (s.later ahead).readDir path = Prod.map id (later ahead) <$> s.readDir path :=
  readDir_map (opendir_later ahead s path) (fun opened => entries_later ahead opened)
    fun read => closedir_later ahead read

-- ---------------------------------------------------------------------------
-- All requests
-- ---------------------------------------------------------------------------

/-- A session whose count is ahead serves a renamed request with a renamed answer, and makes the
same calls and reports. -/
theorem perform_later (request : Request) :
    (s.later ahead).perform (request.mapHandle (DirHandle.later ahead)) =
      outcomeLater ahead <$> s.perform request := by
  cases request with
  | chdir path => exact advance_map rfl (chdir_later ahead s path)
  | chroot path => exact advance_map rfl (chroot_later ahead s path)
  | closedir handle => exact advance_map rfl (closedir_later ahead s handle)
  | opendir path => exact opendir_map (fun _ => rfl) (opendir_later ahead s path)
  | readdir handle => exact answer_map (fun _ => rfl) (readdir_later ahead s handle)
  | entries handle => exact answer_map (fun _ => rfl) (entries_later ahead s handle)
  | readDir path => exact answer_map (fun _ => rfl) (readDir_later ahead s path)
  | configure config => exact answer_map (fun _ => rfl) (configure_later ahead s config)
  | installAliases aliases =>
    show (s.later ahead).installAliases aliases >>= _ = _ <$> (s.installAliases aliases >>= _)
    rw [installAliases_later, bind_map_left, map_bind]
    rfl
  | setPhase phase => rfl
  | teardown => rfl
  | _ => exact observe_map (f := later ahead) (fun _ => rfl) rfl

variable {ahead s}

/-- A session whose count is ahead serves any request as the other one serves the request that it
stands for. A handle from before the count began is accepted by neither. -/
theorem perform_later_earlier (h : s.dirs.Numbered) (request : Request) :
    (s.later ahead).perform request =
      outcomeLater ahead <$> s.perform (request.mapHandle (DirHandle.earlier ahead)) := by
  by_cases hEarlier : ∃ handle, request.handle? = some handle ∧ handle.generation < ahead
  · obtain ⟨handle, hHandle, hBefore⟩ := hEarlier
    have hNone : (s.later ahead).dirs.get? handle = none := s.dirs.get?_later_of_lt hBefore
    have hRenamed : (request.mapHandle (DirHandle.earlier ahead)).handle? =
        some (handle.earlier ahead) := by
      rw [Request.handle?_mapHandle, hHandle]
      rfl
    have hZero : s.dirs.get? (handle.earlier ahead) = none := by
      rw [DirHandle.earlier, Nat.sub_eq_zero_of_le (Nat.le_of_lt hBefore)]
      exact h handle.slot
    rw [perform_of_unknown hHandle hNone, perform_of_unknown hRenamed hZero]
    rfl
  · have hRequest : (request.mapHandle (DirHandle.earlier ahead)).mapHandle
        (DirHandle.later ahead) = request := by
      refine Request.mapHandle_mapHandle fun handle hHandle => ?_
      have hBehind := Nat.le_of_not_lt fun hBefore => hEarlier ⟨handle, hHandle, hBefore⟩
      exact congrArg (DirHandle.mk _) (Nat.sub_add_cancel hBehind)
    rw [← perform_later, hRequest]

end Session

end PathJail
