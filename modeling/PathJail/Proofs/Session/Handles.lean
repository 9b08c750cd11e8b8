import Mathlib.Data.List.Induction
import PathJail.Proofs.Session.Exchanges

/-!
# Directory handles

* `Serves`        — one request to a session, whichever vacant slot is taken.
* `Leads`         — requests one after the other.
* `Leads.tracked` — the table agrees with what the client has seen.
* `handle_map`    — the handles are the keys of a finite map.
-/

namespace PathJail.Session

variable {first s next last : Session} {past later : List Exchange} {request : Request}
  {outcome : Except Error Answer × Session} {handle : DirHandle} {dir : OpenDir}

-- ---------------------------------------------------------------------------
-- Requests
-- ---------------------------------------------------------------------------

/-- A session serves a request, and nothing is known of the slot that an opening takes but that it
was vacant. -/
inductive Serves (s : Session) : Request → Except Error Answer × Session → Prop
  | performed {request : Request} {outcome : Except Error Answer × Session} :
      (s.perform request).Ends outcome → Serves s request outcome
  /-- The opening of a directory, in another slot. -/
  | opened {path real : Text} {listing : Listing} {names : List Text} {slot : Nat} :
      (s.opendir path).run.Ends (.ok ((s.dirs.insert real listing names).1,
        { s with dirs := (s.dirs.insert real listing names).2 })) →
      s.dirs.isVacant slot = true →
      Serves s (.opendir path) (.ok (.handle (s.dirs.insertAt slot real listing names).1),
        { s with dirs := (s.dirs.insertAt slot real listing names).2 })
  /-- A directory that is opened in such a slot, read and closed. -/
  | listed {path : Text} {handle : DirHandle} {opened read last : Session}
      {entries : Except Error (List DirEntry)} :
      Serves s (.opendir path) (.ok (.handle handle), opened) →
      (opened.entries handle).Ends (entries, read) → (read.closedir handle).run.Ends (.ok last) →
      Serves s (.readDir path) (entries.map .entries, last)

/-- An opening takes a vacant slot, or nothing changes. -/
theorem every_perform_opendir (s : Session) (path : Text) :
    (s.perform (.opendir path)).Every (fun _ => True) fun outcome =>
      s.dirs.Serves ⟨.opendir path, outcome.1⟩ outcome.2.dirs := by
  rw [perform, Dialogue.every_bind]
  refine Dialogue.Every.mono (every_opendir s path) fun result hOpened => ?_
  cases result with
  | error e => exact .other rfl rfl (by rintro ⟨⟩)
  | ok opened =>
    obtain ⟨real, listing, names, -, rfl⟩ := hOpened opened rfl
    exact .opened (Option.isNone_iff_eq_none.mpr s.dirs.lookup_vacantSlot)

/-- A request about a handle that has no record comes to nothing. -/
theorem perform_of_unknown (hHandle : request.handle? = some handle)
    (hNone : s.dirs.get? handle = none) :
    s.perform request = .done (.error .unknownHandle, s) := by
  cases request with
  | readdir other =>
    obtain rfl := Option.some.inj hHandle
    rw [perform, readdir, hNone]
    rfl
  | entries other =>
    obtain rfl := Option.some.inj hHandle
    rw [perform, entries, hNone]
    rfl
  | closedir other =>
    obtain rfl := Option.some.inj hHandle
    rw [perform, closedir, OpenDirs.remove, hNone]
    rfl
  | _ => cases hHandle

/-- A request with an accepted handle does with the record what the exchange says. -/
theorem every_perform_of_get? {C : Call → Prop} (hHandle : request.handle? = some handle)
    (hDir : s.dirs.get? handle = some dir) :
    (s.perform request).Every C fun outcome =>
      s.dirs.Serves ⟨request, outcome.1⟩ outcome.2.dirs := by
  cases request with
  | readdir other =>
    obtain rfl := Option.some.inj hHandle
    rw [perform, readdir_of_get? hDir]
    simp only [Dialogue.every_bind, Dialogue.every_notes, Dialogue.pure_eq, Dialogue.every_done]
    rw [dir.took_next.result, readAnswer_eq]
    exact .read hDir
  | entries other =>
    obtain rfl := Option.some.inj hHandle
    rw [perform, entries_of_get? hDir]
    simp only [Dialogue.every_bind, Dialogue.every_notes, Dialogue.pure_eq, Dialogue.every_done]
    rw [dir.drain_result]
    exact .drained hDir
  | closedir other =>
    obtain rfl := Option.some.inj hHandle
    rw [perform, closedir_of_get? hDir]
    exact .closed hDir
  | _ => cases hHandle

/-- **Every request** is one of the exchanges, as the table sees it. -/
theorem every_perform_serves (s : Session) (request : Request) :
    (s.perform request).Every (fun _ => True) fun outcome =>
      s.dirs.Serves ⟨request, outcome.1⟩ outcome.2.dirs := by
  cases hHandle : request.handle? with
  | some handle =>
    cases hDir : s.dirs.get? handle with
    | none =>
      rw [perform_of_unknown hHandle hDir]
      exact .unknown hHandle hDir
    | some dir => exact every_perform_of_get? hHandle hDir
  | none =>
    cases request with
    | opendir path => exact every_perform_opendir s path
    | teardown => exact .cleared
    | readDir path =>
      refine (every_perform s _).mono fun outcome hBecomes => ?_
      have hStep := hBecomes.dirs
      generalize outcome.2.dirs = next at hStep
      cases hStep with
      | same => exact .other rfl rfl nofun
      | listed => exact .listed
    | readdir handle | entries handle | closedir handle => cases hHandle
    | _ =>
      -- the table takes no other step with these
      refine (every_perform s _).mono fun outcome hBecomes => ?_
      have hStep := hBecomes.dirs
      generalize outcome.2.dirs = next at hStep
      cases hStep with
      | same => exact .other rfl rfl nofun

/-- Reading on leaves the record with what is left. -/
theorem dirs_of_entries_ends {entries : Except Error (List DirEntry)}
    (hDir : s.dirs.get? handle = some dir) (h : (s.entries handle).Ends (entries, next)) :
    next.dirs = s.dirs.set handle.slot dir.drain.rest := by
  have hEvery : (s.entries handle).Every (fun _ => True) fun outcome =>
      outcome.2.dirs = s.dirs.set handle.slot dir.drain.rest := by
    rw [entries_of_get? hDir]
    simp
  exact hEvery.ends h

/-- Closing empties the slot. -/
theorem dirs_of_closedir_ends (hDir : s.dirs.get? handle = some dir)
    (h : (s.closedir handle).run.Ends (.ok next)) : next.dirs = s.dirs.erase handle.slot := by
  have hEvery : (s.closedir handle).Every (fun _ => True) fun closed =>
      closed.dirs = s.dirs.erase handle.slot := by
    rw [closedir_of_get? hDir]
    simp
  exact hEvery.ends h next rfl

/-- What is opened, read and closed in one leaves the records as they were. -/
theorem Serves.dirs (h : s.Serves request outcome) :
    s.dirs.Serves ⟨request, outcome.1⟩ outcome.2.dirs := by
  induction h with
  | performed hEnds => exact (every_perform_serves s _).ends hEnds
  | opened _ hVacant => exact .opened hVacant
  | @listed path handle opened read last entries _ hRead hClosed ih =>
    obtain ⟨slot, real, listing, names, hVacant, rfl, hDirs⟩ :
        ∃ slot real listing names, s.dirs.isVacant slot = true ∧
          handle = (s.dirs.insertAt slot real listing names).1 ∧
          opened.dirs = (s.dirs.insertAt slot real listing names).2 := by
      dsimp only at ih
      generalize opened.dirs = dirs at ih ⊢
      cases ih with
      | opened hVacant => exact ⟨_, _, _, _, hVacant, rfl, rfl⟩
      | other _ hNone => cases hNone
    have hOpen := s.dirs.get?_insertAt slot real listing names
    rw [← hDirs] at hOpen
    have hSet := dirs_of_entries_ends hOpen hRead
    have hKept := OpenDirs.get?_set hOpen (OpenDir.drain_generation _)
    rw [← hSet] at hKept
    have hErased := OpenDirs.erase_set_insertAt (OpenDirs.lookup_of_isVacant hVacant) real listing
      names (OpenDir.drain ⟨s.dirs.opened + 1, real, listing, names⟩).rest
    have hLast : last.dirs = { s.dirs with opened := s.dirs.opened + 1 } := by
      rw [dirs_of_closedir_ends hKept hClosed, hSet, hDirs]
      exact hErased
    show s.dirs.Serves _ last.dirs
    rw [hLast]
    exact .listed

/-- A handle that is not accepted changes nothing. -/
theorem Serves.of_unknown (h : s.Serves request outcome) (hHandle : request.handle? = some handle)
    (hNone : s.dirs.get? handle = none) : outcome = (.error .unknownHandle, s) := by
  cases h with
  | performed hEnds =>
    rw [perform_of_unknown hHandle hNone] at hEnds
    cases hEnds
    rfl
  | opened | listed => cases hHandle

-- ---------------------------------------------------------------------------
-- Requests one after the other
-- ---------------------------------------------------------------------------

/-- These exchanges, the first one first, lead from a session to another. -/
inductive Leads (first : Session) : List Exchange → Session → Prop
  | start : Leads first [] first
  | serve {past : List Exchange} {s : Session} {request : Request}
      {outcome : Except Error Answer × Session} : Leads first past s → s.Serves request outcome →
      Leads first (past ++ [⟨request, outcome.1⟩]) outcome.2

/-- The last exchange can be taken off. -/
theorem leads_concat_iff {exchange : Exchange} : first.Leads (past ++ [exchange]) last ↔
    ∃ s, first.Leads past s ∧ s.Serves exchange.request (exchange.answer, last) := by
  constructor
  · intro h
    generalize hAll : past ++ [exchange] = all at h
    cases h with
    | start => simp at hAll
    | @serve before s request outcome hBefore hServes =>
      obtain ⟨rfl, hExchange⟩ := List.append_inj' hAll rfl
      obtain rfl := List.singleton_inj.mp hExchange
      exact ⟨s, hBefore, hServes⟩
  · rintro ⟨s, hBefore, hServes⟩
    exact hBefore.serve hServes

/-- Exchanges can be cut anywhere. -/
theorem Leads.split (later : List Exchange) (h : first.Leads (past ++ later) last) :
    ∃ s, first.Leads past s ∧ s.Leads later last := by
  induction later using List.reverseRecOn generalizing last with
  | nil => exact ⟨last, by rwa [List.append_nil] at h, .start⟩
  | append_singleton later exchange ih =>
    rw [← List.append_assoc, leads_concat_iff] at h
    obtain ⟨middle, hMiddle, hServes⟩ := h
    obtain ⟨s, hPast, hLater⟩ := ih hMiddle
    exact ⟨s, hPast, leads_concat_iff.mpr ⟨middle, hLater, hServes⟩⟩

/-- How the table agrees with what the client has seen. -/
structure Tracked (past : List Exchange) (s : Session) : Prop where
  apart : s.dirs.Apart
  distinct : (issued past).Nodup
  counted : ∀ handle ∈ issued past, handle.generation ≤ s.dirs.opened
  opened : s.dirs.opened ≤ past.countP fun exchange => exchange.request.opens
  accepted : ∀ handle, (s.dirs.get? handle).isSome = true ↔ StillOpen past handle

/-- **One request.** The table goes on to agree with what the client has seen. -/
theorem Tracked.serve (h : Tracked past s) (hServes : s.Serves request outcome) :
    Tracked (past ++ [⟨request, outcome.1⟩]) outcome.2 := by
  have hDirs := hServes.dirs
  obtain ⟨hGrows, hOpens⟩ := hDirs.opened_le
  have hIssued : issued (past ++ [⟨request, outcome.1⟩]) =
      issued past ++ (Exchange.issued? ⟨request, outcome.1⟩).toList := by
    rw [issued, List.filterMap_append, List.filterMap_cons]
    cases Exchange.issued? ⟨request, outcome.1⟩ <;> rfl
  refine ⟨hDirs.apart h.apart, ?_, fun handle hHandle => ?_, ?_, fun handle => ?_⟩
  · rw [hIssued, List.nodup_append]
    refine ⟨h.distinct, ?_, fun handle hHandle given hGiven => ?_⟩
    · cases Exchange.issued? ⟨request, outcome.1⟩ <;> simp
    · -- the new handle counts more openings than any before
      obtain ⟨-, -, hGeneration, -⟩ := hDirs.exists_of_issued (Option.mem_toList.mp hGiven)
      have hCounted := h.counted handle hHandle
      rintro rfl
      omega
  · rw [hIssued, List.mem_append] at hHandle
    rcases hHandle with hEarlier | hGiven
    · exact Nat.le_trans (h.counted handle hEarlier) hGrows
    · obtain ⟨-, -, hGeneration, hOpened⟩ :=
        hDirs.exists_of_issued (Option.mem_toList.mp hGiven)
      omega
  · rw [List.countP_append]
    exact Nat.le_trans hOpens (Nat.add_le_add_right h.opened _)
  · rw [hDirs.isSome_get?_iff, stillOpen_concat, h.accepted]

/-- Induction on the exchanges. -/
theorem Leads.tracked (hStart : first.dirs = {}) (h : first.Leads past s) : Tracked past s := by
  induction h with
  | start =>
    have hNone (handle : DirHandle) : first.dirs.get? handle = none := by
      rw [hStart]
      rfl
    refine ⟨?_, List.nodup_nil, nofun, ?_, fun handle => ?_⟩
    · rw [hStart]
      exact List.nodup_nil
    · rw [hStart]
      exact Nat.le_refl 0
    · simp [hNone, not_stillOpen_nil]
  | serve _ hServes ih => exact ih.serve hServes

/-- A record goes on as the exchanges say, as long as none retires it. Induction on them. -/
theorem Leads.remaining (h : s.Leads later last) (hDir : s.dirs.get? handle = some dir)
    (hLater : ∀ exchange ∈ later, exchange.retires handle = false) :
    ∃ now, last.dirs.get? handle = some now ∧ now.path = dir.path ∧
      now.left = remaining handle later dir.left := by
  induction h with
  | start => exact ⟨dir, hDir, rfl, rfl⟩
  | @serve later middle request outcome _ hServes ih =>
    obtain ⟨before, hBefore, hPath, hLeft⟩ := ih fun exchange hExchange =>
      hLater exchange (List.mem_append_left _ hExchange)
    obtain ⟨now, hNow, hNowPath, hNowLeft⟩ :=
      hServes.dirs.passed hBefore (hLater _ (List.mem_append_right _ List.mem_cons_self))
    refine ⟨now, hNow, hNowPath.trans hPath, ?_⟩
    rw [hNowLeft, hLeft, PathJail.remaining, PathJail.remaining, List.foldl_append]
    rfl

-- ---------------------------------------------------------------------------
-- The finite map
-- ---------------------------------------------------------------------------

/-- The handles of a session that came about by these exchanges are the keys of a finite map. -/
structure HandleMap (first : Session) (past : List Exchange) (s : Session) : Prop where
  /-- No handle is given out twice. -/
  distinct : (issued past).Nodup
  /-- A handle is accepted if and only if it was given out and not closed since. -/
  accepted : ∀ handle request outcome, request.handle? = some handle → s.Serves request outcome →
    (outcome.1 ≠ .error .unknownHandle ↔ StillOpen past handle)
  /-- A handle that is not accepted changes nothing. -/
  refused : ∀ handle request outcome, request.handle? = some handle → ¬ StillOpen past handle →
    s.Serves request outcome → outcome = (.error .unknownHandle, s)
  /-- The record of an accepted handle is the one that its own opening made, as far on as its own
  reads have come. -/
  addressed : ∀ handle, StillOpen past handle →
    ∃ before path after opening opened made dir,
      past = before ++ ⟨.opendir path, .ok (.handle handle)⟩ :: after ∧
      first.Leads before opening ∧
      opening.Serves (.opendir path) (.ok (.handle handle), opened) ∧
      opened.Leads after s ∧
      opened.dirs.get? handle = some made ∧ s.dirs.get? handle = some dir ∧
      dir.path = made.path ∧ dir.left = remaining handle after made.left
  /-- The record of a handle is what its requests answer from. -/
  answers : ∀ handle request outcome dir, request.handle? = some handle →
    s.dirs.get? handle = some dir → s.Serves request outcome → outcome.1 = dir.answer request
  /-- A request changes no record of a handle that it does not use. -/
  apart : ∀ handle request outcome, s.Serves request outcome → request.uses handle = false →
    Exchange.issued? ⟨request, outcome.1⟩ ≠ some handle →
    outcome.2.dirs.get? handle = s.dirs.get? handle
  /-- The open directories are counted. -/
  size : ∃ handles : List DirHandle, handles.Nodup ∧
    (∀ handle, handle ∈ handles ↔ StillOpen past handle) ∧ s.dirs.size = handles.length
  /-- The count of the openings is never ahead of them. -/
  opened : s.dirs.opened ≤ past.countP fun exchange => exchange.request.opens

/-- The opening that gave an open handle out is among the exchanges, and those behind it are what
the record has been through. -/
theorem Leads.addressed (h : first.Leads past s) (hOpen : StillOpen past handle) :
    ∃ before path after opening opened made dir,
      past = before ++ ⟨.opendir path, .ok (.handle handle)⟩ :: after ∧
      first.Leads before opening ∧
      opening.Serves (.opendir path) (.ok (.handle handle), opened) ∧
      opened.Leads after s ∧
      opened.dirs.get? handle = some made ∧ s.dirs.get? handle = some dir ∧
      dir.path = made.path ∧ dir.left = PathJail.remaining handle after made.left := by
  obtain ⟨before, exchange, after, rfl, hIssued, hAfter⟩ := hOpen
  obtain ⟨path, rfl⟩ := Exchange.issued?_eq_some_iff.mp hIssued
  rw [← List.singleton_append, ← List.append_assoc] at h
  obtain ⟨opened, hOpened, hLater⟩ := h.split after
  obtain ⟨opening, hBefore, hServes⟩ := leads_concat_iff.mp hOpened
  obtain ⟨-, ⟨made, hMade⟩, -⟩ := hServes.dirs.exists_of_issued hIssued
  obtain ⟨dir, hDir, hPath, hLeft⟩ := hLater.remaining hMade hAfter
  exact ⟨before, path, after, opening, opened, made, dir, rfl, hBefore, hServes, hLater, hMade,
    hDir, hPath, hLeft⟩

/--
**Directory handles refine a finite map.** A session has no directory open, and then it serves any
requests, whatever the host answers and whichever vacant slot each opening takes. -/
theorem handle_map (hStart : first.dirs = {}) (h : first.Leads past s) :
    HandleMap first past s := by
  have hTracked := h.tracked hStart
  have hRefused (handle : DirHandle) (hClosed : ¬ StillOpen past handle) :
      s.dirs.get? handle = none := by
    rw [← hTracked.accepted] at hClosed
    exact Option.not_isSome_iff_eq_none.mp hClosed
  refine ⟨hTracked.distinct, ?_, ?_, ?_, ?_, ?_, ?_, hTracked.opened⟩
  · intro handle request outcome hHandle hServes
    rw [← hTracked.accepted]
    exact hServes.dirs.accepted_iff hHandle
  · intro handle request outcome hHandle hClosed hServes
    exact hServes.of_unknown hHandle (hRefused handle hClosed)
  · exact fun handle hOpen => h.addressed hOpen
  · exact fun handle request outcome dir hHandle hDir hServes =>
      hServes.dirs.answer_eq hHandle hDir
  · exact fun handle request outcome hServes hUses => hServes.dirs.get?_eq hUses
  · refine ⟨s.dirs.handles, hTracked.apart.nodup_handles, fun handle => ?_,
      s.dirs.length_handles.symm⟩
    rw [hTracked.apart.mem_handles_iff, hTracked.accepted]

/-- Whatever a concrete host answers, the session serves the request. -/
theorem serves_run {σ : Type} (s : Session) (request : Request) (host : Host σ) (state : σ) :
    s.Serves request ((s.perform request).run host state).value :=
  .performed (Dialogue.ends_run host _ state)

/-- A directory with two entries. -/
def twoEntries : Listing :=
  [.read (.ok ⟨"x".toList, some .file⟩), .read (.ok ⟨"y".toList, none⟩)]

/-- A session with one directory open, by its opening of this number, and this left of it. -/
def oneOpen (generation : Nat) (pending : Listing) : Session where
  dirs := { records := [(0, ⟨generation, "/a".toList, pending, []⟩)], opened := generation }

/-- A session with a directory open for the second time, of which one entry was read. -/
def reopened : Session := oneOpen 2 twoEntries.tail

/-- The first read of the directory gives the first entry, whichever opening it is. -/
theorem serves_oneOpen (generation : Nat) :
    (oneOpen generation twoEntries).Serves (.readdir ⟨0, generation⟩)
      (.ok (.entry (some ⟨"x".toList, some .file, false⟩)),
        oneOpen generation twoEntries.tail) := by
  have hDir : (oneOpen generation twoEntries).dirs.get? ⟨0, generation⟩ =
      some ⟨generation, "/a".toList, twoEntries, []⟩ :=
    OpenDirs.get?_eq_some_iff.mpr ⟨rfl, rfl⟩
  refine .performed ?_
  rw [perform, readdir_of_get? hDir]
  exact .done _

/-- The directory was opened, read and closed, and then opened again, in the same slot, and read. -/
theorem leads_reopened : Session.new.Leads
    [⟨.opendir "/a".toList, .ok (.handle ⟨0, 1⟩)⟩,
      ⟨.readdir ⟨0, 1⟩, .ok (.entry (some ⟨"x".toList, some .file, false⟩))⟩,
      ⟨.closedir ⟨0, 1⟩, .ok .done⟩,
      ⟨.opendir "/a".toList, .ok (.handle ⟨0, 2⟩)⟩,
      ⟨.readdir ⟨0, 2⟩, .ok (.entry (some ⟨"x".toList, some .file, false⟩))⟩] reopened := by
  have hFirst : Session.new.Serves (.opendir "/a".toList)
      (.ok (.handle ⟨0, 1⟩), oneOpen 1 twoEntries) :=
    .performed (.ask (.ok twoEntries) (.done _))
  have hClosed : (oneOpen 1 twoEntries.tail).Serves (.closedir ⟨0, 1⟩)
      (.ok .done, { dirs := { opened := 1 } }) :=
    .performed (.note (.done _))
  have hSecond : Session.Serves { dirs := { opened := 1 } } (.opendir "/a".toList)
      (.ok (.handle ⟨0, 2⟩), oneOpen 2 twoEntries) :=
    .performed (.ask (.ok twoEntries) (.done _))
  have hOnce := ((Leads.start.serve hFirst).serve (serves_oneOpen 1)).serve hClosed
  exact (hOnce.serve hSecond).serve (serves_oneOpen 2)

/-- The handle of the first opening stays closed. That of the second one began with the first entry
again, and goes on where its own read left it. -/
theorem handle_map_reopened : ∃ past : List Exchange, Session.new.Leads past reopened ∧
    ⟨.closedir ⟨0, 1⟩, .ok .done⟩ ∈ past ∧
    ⟨.readdir ⟨0, 2⟩, .ok (.entry (some ⟨"x".toList, some .file, false⟩))⟩ ∈ past ∧
    reopened.dirs.size = 1 ∧
    (∀ outcome, reopened.Serves (.readdir ⟨0, 1⟩) outcome →
      outcome = (.error .unknownHandle, reopened)) ∧
    ∀ outcome, reopened.Serves (.readdir ⟨0, 2⟩) outcome →
      outcome.1 = .ok (.entry (some ⟨"y".toList, none, false⟩)) := by
  have hMap := handle_map rfl leads_reopened
  refine ⟨_, leads_reopened, by simp, by simp, rfl, fun outcome hServes => ?_,
    fun outcome hServes => ?_⟩
  · refine hMap.refused ⟨0, 1⟩ _ outcome rfl ?_ hServes
    rw [← (leads_reopened.tracked rfl).accepted]
    exact Bool.false_ne_true
  · exact hMap.answers ⟨0, 2⟩ _ outcome _ rfl rfl hServes

end PathJail.Session
