import PathJail.Proofs.Session.Deletion

/-!
# What a listing shows

A directory is opened at the real path that its links lead to, and the names to be shown over it are
those of the aliases that live there, by that real path or by the virtual one. From then on its
reads give what is left of it, one result after the other; what else happens in the session between
two reads does not matter to them.

* `LivesIn`, `mem_namesIn` — the names of the aliases in a directory.
* `opendir_yields_walk`    — what became of an opening that succeeded.
* `every_history_reads`    — the reads in a history, by induction on it.
* `listing_overlaid`       — both in one: the listing of a directory.
-/

namespace PathJail.Session

open PathJail.Path (trimSlashes)

variable {s opened : Session} {σ : Type} {host : Host σ} {state : σ} {calls : List Call}
variable {handle : DirHandle} {dir : OpenDir}

-- ---------------------------------------------------------------------------
-- The names of aliases
-- ---------------------------------------------------------------------------

/-- The alias lies in the directory with this real and this virtual path, and is not one of the
directory itself. -/
def LivesIn (entry : AliasEntry) (real virtual : Text) : Prop :=
  (Path.parent entry.1 = some real ∨ Path.parent entry.1 = some virtual) ∧ entry.2 ≠ real

/-- The names in a directory are those of the aliases that live in it. -/
theorem mem_namesIn {table : AliasTable} {real virtual name : Text} :
    name ∈ namesIn table real virtual ↔
      ∃ entry ∈ table.entries, LivesIn entry real virtual ∧ Path.basename entry.1 = name := by
  rw [namesIn, Text.mem_ascending, List.mem_filterMap]
  refine exists_congr fun entry => and_congr_right fun _ => ?_
  by_cases hSelf : entry.2 = real
  · simp [LivesIn, hSelf]
  · cases hParent : Path.parent entry.1 with
    | none => simp [LivesIn, hSelf, hParent]
    | some dir =>
      by_cases hDir : dir = real ∨ dir = virtual <;> simp [LivesIn, hSelf, hParent, hDir]

theorem namesIn_of_isEmpty {table : AliasTable} (h : table.isEmpty = true) (real virtual : Text) :
    namesIn table real virtual = [] := by
  rw [namesIn, List.isEmpty_iff.mp h]
  rfl

theorem pairwise_namesIn (table : AliasTable) (real virtual : Text) :
    (namesIn table real virtual).Pairwise fun a b => Text.bytes a < Text.bytes b :=
  (Text.pairwise_ascending _).imp Text.bytes_lt_bytes_iff.mpr

/-- What is laid over a listing are these names, found without a call. -/
theorem aliasNames_yields_ok {virtual real placed : Text} {names : List Text}
    (hPlaced : s.resolver.confine false virtual = .ok placed)
    (h : (s.aliasNames virtual real).Yields host state (.ok names) calls) :
    names = namesIn s.resolver.aliases (trimSlashes real) (trimSlashes placed) ∧ calls = [] := by
  unfold aliasNames at h
  cases hTable : s.resolver.aliases.isEmpty with
  | true =>
    rw [hTable, if_pos rfl] at h
    obtain ⟨hNames, hCalls⟩ := (Attempt.yields_pure _).mp h
    exact ⟨(Except.ok.inj hNames).trans (namesIn_of_isEmpty hTable _ _).symm, hCalls⟩
  | false =>
    rw [hTable, if_neg Bool.false_ne_true] at h
    obtain ⟨resolved, hLookup, hRest⟩ := Resolver.yields_find_bind.mp h
    rw [Resolver.raised_of_lookup hLookup] at hLookup
    have hConfine := Resolver.confine_of_lookup_false hLookup
    obtain rfl : placed = resolved.real := Except.ok.inj (hPlaced.symm.trans hConfine)
    -- the names go to the log, if there are any
    dsimp only at hRest
    split at hRest
    · rw [Attempt.yields_note_bind] at hRest
      obtain ⟨hNames, hCalls⟩ := (Attempt.yields_pure _).mp hRest
      exact ⟨Except.ok.inj hNames, hCalls⟩
    · obtain ⟨hNames, hCalls⟩ := (Attempt.yields_pure _).mp hRest
      exact ⟨Except.ok.inj hNames, hCalls⟩

-- ---------------------------------------------------------------------------
-- Opening
-- ---------------------------------------------------------------------------

/-- An opening that succeeded, step by step: the lookup, the walk along links, the call that opened
the directory, and its record, which has what the host answered and the names of the aliases. -/
theorem opendir_yields_walk (hNormal : s.bypasses = false) {path : Text}
    (h : (s.opendir path).Yields host state (.ok (handle, opened)) calls) :
    ∃ virtual resolved asked real listing placed, s.normalized path = .ok virtual ∧
      s.resolver.lookup false virtual true = .ok resolved ∧
      (s.followLinks s.resolver.limits.maxLinks resolved.real).Yields host state (.ok real) asked ∧
      calls = asked ++ [.openDir real] ∧
      (host.answer (.openDir real) (host.after state asked)).1 = .ok listing ∧
      s.resolver.confine false virtual = .ok placed ∧
      (handle, opened.dirs) = s.dirs.insert real listing
        (namesIn s.resolver.aliases (trimSlashes real) (trimSlashes placed)) := by
  unfold opendir at h
  rw [hNormal, if_neg Bool.false_ne_true] at h
  obtain ⟨virtual, hVirtual, hLooked⟩ := Attempt.yields_ofExcept_bind.mp h
  obtain ⟨resolved, hLookup, hWalked⟩ := Resolver.yields_find_bind.mp hLooked
  rw [Resolver.raised_of_lookup hLookup] at hLookup
  obtain ⟨placed, hPlaced⟩ := Resolver.exists_confine_of_lookup hLookup
  obtain ⟨real, asked, last, hWalk, hOpened, rfl⟩ := Attempt.yields_ok_iff.mp hWalked
  obtain ⟨rest, hListed, rfl⟩ := Attempt.yields_reply_bind.mp hOpened
  cases hAnswer : (host.answer (.openDir real) (host.after state asked)).1 with
  | error failure =>
    rw [hAnswer] at hListed
    have hFailed := (Attempt.yields_throw _).mp (Attempt.yields_note_bind.mp hListed)
    cases hFailed.1
  | ok listing =>
    rw [hAnswer] at hListed
    obtain ⟨names, _, _, hNames, hRecord, rfl⟩ := Attempt.yields_ok_iff.mp hListed
    obtain ⟨rfl, rfl⟩ := aliasNames_yields_ok hPlaced hNames
    obtain ⟨hResult, rfl⟩ := (Attempt.yields_pure _).mp hRecord
    refine ⟨virtual, resolved, asked, real, listing, placed, hVirtual, hLookup, hWalk, rfl, hAnswer,
      hPlaced, ?_⟩
    obtain ⟨rfl, rfl⟩ := Prod.mk.inj (Except.ok.inj hResult)
    rfl

/-- What became of an opening that succeeded: the last call opened the directory, and its record has
what the host answered and the names of the aliases. -/
theorem opendir_yields_ok (hNormal : s.bypasses = false) {path : Text}
    (h : (s.opendir path).Yields host state (.ok (handle, opened)) calls) :
    ∃ asked real listing placed, calls = asked ++ [.openDir real] ∧
      (host.answer (.openDir real) (host.after state asked)).1 = .ok listing ∧
      s.unaliased false path = .ok placed ∧
      (handle, opened.dirs) = s.dirs.insert real listing
        (namesIn s.resolver.aliases (trimSlashes real) (trimSlashes placed)) := by
  obtain ⟨virtual, resolved, asked, real, listing, placed, hVirtual, -, -, hCalls, hAnswer, hPlaced,
    hDirs⟩ := opendir_yields_walk hNormal h
  refine ⟨asked, real, listing, placed, hCalls, hAnswer, ?_, hDirs⟩
  rw [unaliased_of_normalized hVirtual, hPlaced]

/-- A request to open a directory succeeds when its attempt does. -/
theorem perform_opendir_yields_ok {path : Text}
    (h : (s.perform (.opendir path)).Yields host state (.ok (.handle handle), opened) calls) :
    (s.opendir path).Yields host state (.ok (handle, opened)) calls := by
  obtain ⟨result, first, second, hAttempt, hResult, rfl⟩ := Dialogue.yields_bind_iff.mp h
  cases result with
  | error e => cases (Dialogue.yields_done.mp hResult).1
  | ok made =>
    obtain ⟨hMade, rfl⟩ := Dialogue.yields_done.mp hResult
    obtain ⟨hHandle, rfl⟩ := Prod.mk.inj hMade
    obtain rfl := Answer.handle.inj (Except.ok.inj hHandle)
    rwa [List.append_nil]

-- ---------------------------------------------------------------------------
-- Reading
-- ---------------------------------------------------------------------------

/-- The answer to a read that finds this result; behind the last one there is no entry. -/
def readAnswer : Option (Except HostError DirEntry) → Except Error Answer
  | none => .ok (.entry none)
  | some (.ok entry) => .ok (.entry (some entry))
  | some (.error failure) => .error (.host failure)

/-- What a read gives, as the answer to a request. -/
theorem readAnswer_eq (result : Option (Except HostError DirEntry)) :
    ((OpenDir.given result).mapError Error.host).map Answer.entry = readAnswer result := by
  rcases result with _ | _ | _ <;> rfl

/-- A read answers with the first result that is left, and leaves the others. -/
theorem every_perform_readdir {C : Call → Prop} (hDir : s.dirs.get? handle = some dir) :
    (s.perform (.readdir handle)).Every C fun outcome =>
      outcome.1 = readAnswer dir.left.head? ∧ ∃ rest, outcome.2.dirs.get? handle = some rest ∧
        rest.left = dir.left.tail := by
  rw [perform, readdir_of_get? hDir]
  simp only [Dialogue.every_bind, Dialogue.every_notes, Dialogue.pure_eq, Dialogue.every_done]
  obtain ⟨hResult, hRest, hGeneration, -⟩ := dir.took_next
  rw [hResult]
  exact ⟨readAnswer_eq _, _, OpenDirs.get?_set hDir hGeneration, hRest⟩

/-- The answers to one request among those to a list of requests. -/
def answersTo (request : Request) (requests : List Request)
    (answers : List (Except Error Answer)) : List (Except Error Answer) :=
  ((requests.zip answers).filter fun exchange => exchange.1 = request).map Prod.snd

/-- The answer to the request in front is the first one. -/
theorem answersTo_cons_self (request : Request) (requests : List Request)
    (answer : Except Error Answer) (answers : List (Except Error Answer)) :
    answersTo request (request :: requests) (answer :: answers) =
      answer :: answersTo request requests answers := by
  simp [answersTo]

/-- The answer to another request is left out. -/
theorem answersTo_cons_of_ne {request asked : Request} (h : asked ≠ request)
    (requests : List Request) (answer : Except Error Answer)
    (answers : List (Except Error Answer)) :
    answersTo request (asked :: requests) (answer :: answers) =
      answersTo request requests answers := by
  simp [answersTo, h]

/-- The reads in a history, one after the other. Induction on the history: a read takes the first of
the results that are left, and any other request leaves all of them. -/
theorem every_history_reads {requests : List Request}
    (hRequests : ∀ request ∈ requests,
      request = .readdir handle ∨ request.uses handle = false)
    (hDir : s.dirs.get? handle = some dir) :
    (s.history requests).Every (fun _ => True) fun outcome =>
      answersTo (.readdir handle) requests outcome.1 =
        (List.range (requests.count (.readdir handle))).map fun i => readAnswer dir.left[i]? := by
  induction requests generalizing s dir with
  | nil => exact rfl
  | cons request requests ih =>
    have hLater := fun r hr => hRequests r (List.mem_cons_of_mem request hr)
    rw [history, Dialogue.every_bind]
    rcases hRequests request List.mem_cons_self with rfl | hUnused
    · refine (every_perform_readdir hDir).mono fun outcome hRead => ?_
      obtain ⟨hAnswer, rest, hRest, hLeft⟩ := hRead
      rw [Dialogue.every_bind]
      refine (ih hLater hRest).mono fun last hLast => ?_
      have hTail : ∀ i, dir.left[i + 1]? = rest.left[i]? := fun i => by
        rw [hLeft, List.getElem?_tail]
      show answersTo _ _ (outcome.1 :: last.1) = _
      rw [answersTo_cons_self, hLast, hAnswer, List.count_cons_self, List.range_succ_eq_map,
        List.map_cons, List.map_map, List.head?_eq_getElem?]
      exact congrArg _ (List.map_congr_left fun i _ => congrArg readAnswer (hTail i).symm)
    · refine (every_perform s request).mono fun outcome hBecomes => ?_
      have hKept := hBecomes.dirs.get? hUnused hDir
      have hNe : request ≠ .readdir handle := by
        rintro rfl
        simp [Request.uses] at hUnused
      rw [Dialogue.every_bind]
      refine (ih hLater hKept).mono fun last hLast => ?_
      show answersTo _ _ (outcome.1 :: last.1) = _
      rw [answersTo_cons_of_ne hNe, hLast, List.count_cons_of_ne hNe]

-- ---------------------------------------------------------------------------
-- Listings
-- ---------------------------------------------------------------------------

/--
**A listing is the host's, with the aliases laid over it.** A directory was opened in a session with
a base that serves its client. Then the last call opened it, at `real`, and `listing` is what the
host has to read. Let `placed` be what the requested path comes to without aliases. The names that
are laid over the listing are those of the aliases that live in `real` or in `placed`, each once and
in the order of their bytes. Whatever is asked of the session from then on, as long as the directory
stays open and nothing else reads it: its reads give the results of `listing` in order, failures in
their place and the entries of those names left out, then the names, and then no entry for ever. An
entry whose name is no text is no result.
-/
theorem listing_overlaid {base : Text} (hBase : s.resolver.base = some base)
    (hPhase : s.phase = .normal) {path : Text} (host : Host σ) (state : σ)
    (hOpened : ((s.perform (.opendir path)).run host state).value =
      (.ok (.handle handle), opened)) :
    ∃ asked real listing placed,
      ((s.perform (.opendir path)).run host state).calls = asked ++ [.openDir real] ∧
      (host.answer (.openDir real) (host.after state asked)).1 = .ok listing ∧
      s.unaliased false path = .ok placed ∧
      let names := namesIn s.resolver.aliases (trimSlashes real) (trimSlashes placed)
      names.Pairwise (fun a b => Text.bytes a < Text.bytes b) ∧
      (∀ name, name ∈ names ↔ ∃ entry ∈ s.resolver.aliases.entries,
        LivesIn entry (trimSlashes real) (trimSlashes placed) ∧ Path.basename entry.1 = name) ∧
      ∀ (requests : List Request) (answers : List (Except Error Answer)) (last : Session),
        (∀ request ∈ requests, request = .readdir handle ∨ request.uses handle = false) →
        (opened.history requests).Ends (answers, last) →
          answersTo (.readdir handle) requests answers =
            (List.range (requests.count (.readdir handle))).map fun i =>
              readAnswer (OpenDir.overlay listing names)[i]? := by
  have hNormal : s.bypasses = false := by simp [bypasses, Resolver.hasBase, hBase, hPhase]
  have hRun := Dialogue.yields_run (s.perform (.opendir path)) host state
  rw [hOpened] at hRun
  obtain ⟨asked, real, listing, placed, hCalls, hListing, hPlaced, hDirs⟩ :=
    opendir_yields_ok hNormal (perform_opendir_yields_ok hRun)
  refine ⟨asked, real, listing, placed, hCalls, hListing, hPlaced, pairwise_namesIn _ _ _,
    fun name => mem_namesIn, fun requests answers last hRequests hEnds => ?_⟩
  have hDir := s.dirs.get?_insert real listing
    (namesIn s.resolver.aliases (trimSlashes real) (trimSlashes placed))
  rw [← hDirs] at hDir
  exact (every_history_reads hRequests hDir).ends hEnds

/-- A host whose directory `/store/` has a file under the name of the alias, then a failure, and
then a file. -/
def storeHost : FixedHost where
  nodes := [("/store/".toList, {
    metadata := ⟨.directory, 0, 0o755, 0, 0, 0, 0⟩
    listing := [.ok ⟨"pub".toList, some .file⟩, .error (.code 5), .ok ⟨"a".toList, none⟩] })]

/-- The session `pubSession` with its root opened on that host. -/
def listedSession : Session where
  resolver := pubSession.resolver
  chrootPath := pubSession.chrootPath
  dirs := (pubSession.dirs.insert "/store/".toList
    [.read (.ok ⟨"pub".toList, some .file⟩), .read (.error (.code 5)),
      .read (.ok ⟨"a".toList, none⟩)] ["pub".toList]).2

theorem normalized_pubSession_root : pubSession.normalized "/".toList = .ok "/".toList := by
  rw [normalized, Path.clean_eq_normal]
  rfl

/-- The root of the view is the base. -/
theorem confine_pubSession_root :
    pubSession.resolver.confine false "/".toList = .ok "/store/".toList := by
  obtain ⟨names, hNames⟩ := reachable_pubSession.resolver.baseNames
  rw [Resolver.confine_eq_placement hNames, Resolver.placement, Path.clean_eq_normal]
  rfl

/-- Opening the root looks for a link first. -/
theorem opendir_listedSession : (pubSession.opendir "/".toList).Yields storeHost.toHost false
    (.ok (⟨0, 1⟩, listedSession)) [.lstat "/store/".toList, .openDir "/store/".toList] := by
  have hLookup : pubSession.resolver.lookup false "/".toList true =
      .ok ⟨"/store/".toList, none⟩ := by
    rw [Resolver.lookup_true_of_confine confine_pubSession_root]
    rfl
  have hUnfollowed : pubSession.resolver.lookup false "/".toList false =
      .ok ⟨"/store/".toList, none⟩ := by
    rw [Resolver.lookup_false, confine_pubSession_root]
    rfl
  have hLinks : (pubSession.followLinks 32 "/store/".toList).Yields storeHost.toHost false
      (.ok "/store/".toList) [.lstat "/store/".toList] := by
    rw [followLinks]
    exact Attempt.yields_reply_bind.mpr ⟨[], (Attempt.yields_pure _).mpr ⟨rfl, rfl⟩, rfl⟩
  have hAliases : (pubSession.aliasNames "/".toList "/store/".toList).Yields storeHost.toHost false
      (.ok ["pub".toList]) [] := by
    refine Resolver.yields_find_bind.mpr ⟨_, hUnfollowed, ?_⟩
    exact Attempt.yields_note_bind.mpr ((Attempt.yields_pure _).mpr ⟨rfl, rfl⟩)
  refine Attempt.yields_ofExcept_bind.mpr ⟨_, normalized_pubSession_root, ?_⟩
  refine Resolver.yields_find_bind.mpr ⟨_, hLookup, ?_⟩
  refine hLinks.bind ?_
  refine Attempt.yields_reply_bind.mpr ⟨[], ?_, rfl⟩
  exact hAliases.then ((Attempt.yields_pure _).mpr ⟨rfl, rfl⟩)

/-- The reads go on behind a failure, and another opening between them does not matter. -/
theorem listing_overlaid_pub :
    ((pubSession.perform (.opendir "/".toList)).run storeHost.toHost false).value =
      (.ok (.handle ⟨0, 1⟩), listedSession) ∧
    ∀ (answers : List (Except Error Answer)) (last : Session),
      (listedSession.history [.readdir ⟨0, 1⟩, .readdir ⟨0, 1⟩, .opendir "/".toList,
        .readdir ⟨0, 1⟩, .readdir ⟨0, 1⟩]).Ends (answers, last) →
      answersTo (.readdir ⟨0, 1⟩) [.readdir ⟨0, 1⟩, .readdir ⟨0, 1⟩, .opendir "/".toList,
        .readdir ⟨0, 1⟩, .readdir ⟨0, 1⟩] answers =
          [.error (.host (.code 5)), .ok (.entry (some ⟨"a".toList, none, false⟩)),
            .ok (.entry (some ⟨"pub".toList, none, true⟩)), .ok (.entry none)] := by
  have hRun : (pubSession.perform (.opendir "/".toList)).Yields storeHost.toHost false
      (.ok (.handle ⟨0, 1⟩), listedSession)
      [.lstat "/store/".toList, .openDir "/store/".toList] :=
    Dialogue.Yields.bind opendir_listedSession (Dialogue.yields_done.mpr ⟨rfl, rfl⟩)
  refine ⟨hRun.value, fun answers last hEnds => ?_⟩
  obtain ⟨asked, real, listing, placed, hCalls, hListing, hPlaced, -, -, hReads⟩ :=
    listing_overlaid rfl rfl storeHost.toHost false hRun.value
  have hSplit : [Call.lstat "/store/".toList] ++ [.openDir "/store/".toList] =
      asked ++ [.openDir real] := hRun.calls.symm.trans hCalls
  obtain ⟨rfl, hOpen⟩ := List.append_inj' hSplit rfl
  obtain rfl := Call.openDir.inj (List.singleton_inj.mp hOpen)
  obtain rfl := Except.ok.inj hListing
  rw [unaliased_of_normalized normalized_pubSession_root, confine_pubSession_root] at hPlaced
  obtain rfl := Except.ok.inj hPlaced
  exact hReads _ answers last (by decide) hEnds

end PathJail.Session
