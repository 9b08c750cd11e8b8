import Mathlib.Data.List.Nodup
import PathJail.Proofs.Session.Listing

/-!
# Exchanges and the table of open directories

What a client has seen of a session is a list of exchanges: its requests with their answers. That
list alone decides which handles are accepted, and what each of them has still to read. The table
puts a new record into any slot that is vacant: a slot may be used again at once, and a handle that
was given out for it before does not come alive again.

* `issued`, `StillOpen`, `remaining` — what the exchanges say about handles.
* `OpenDirs.Serves`                  — what one exchange does to the table.
* `OpenDirs.Serves.get?_eq`          — it leaves the records of all handles that it is not about.
* `OpenDirs.Serves.isSome_get?_iff`  — which handles have a record behind it.
* `OpenDirs.Serves.accepted_iff`     — a handle is accepted when it has a record.
-/

namespace PathJail

-- ---------------------------------------------------------------------------
-- Exchanges
-- ---------------------------------------------------------------------------

/-- A request that was served, and the answer. -/
structure Exchange where
  request : Request
  answer : Except Error Answer

/-- The handle that a request is about. -/
def Request.handle? : Request → Option DirHandle
  | .readdir handle | .entries handle | .closedir handle => some handle
  | _ => none

/-- The requests that open a directory, be it to close it again. -/
def Request.opens : Request → Bool
  | .opendir _ | .readDir _ => true
  | _ => false

namespace Exchange

/-- The handle that was given out. -/
def issued? (exchange : Exchange) : Option DirHandle :=
  match exchange.request, exchange.answer with
  | .opendir _, .ok (.handle handle) => some handle
  | _, _ => none

/-- Whether the directory of a handle is closed behind the exchange. -/
def retires (handle : DirHandle) (exchange : Exchange) : Bool :=
  match exchange.request with
  | .closedir other => other = handle
  | .teardown => true
  | _ => false

/-- What the exchange leaves of what a handle has still to read. -/
def passed (handle : DirHandle) (left : List (Except HostError DirEntry)) (exchange : Exchange) :
    List (Except HostError DirEntry) :=
  match exchange.request with
  | .readdir other => if other = handle then left.tail else left
  | .entries other => if other = handle then (left.dropWhile Except.isOk).tail else left
  | _ => left

end Exchange

/-- The handles that were given out. -/
def issued (past : List Exchange) : List DirHandle := past.filterMap Exchange.issued?

/-- The handle was given out, and not closed since. -/
def StillOpen (past : List Exchange) (handle : DirHandle) : Prop :=
  ∃ before opening after, past = before ++ opening :: after ∧ opening.issued? = some handle ∧
    ∀ later ∈ after, later.retires handle = false

/-- What a handle has still to read behind these exchanges. -/
def remaining (handle : DirHandle) (past : List Exchange)
    (left : List (Except HostError DirEntry)) : List (Except HostError DirEntry) :=
  past.foldl (Exchange.passed handle) left

/-- A handle is given out by an opening, and by nothing else. -/
theorem Exchange.issued?_eq_some_iff {exchange : Exchange} {handle : DirHandle} :
    exchange.issued? = some handle ↔ ∃ path, exchange = ⟨.opendir path, .ok (.handle handle)⟩ := by
  constructor
  · intro h
    obtain ⟨request, answer⟩ := exchange
    unfold issued? at h
    split at h
    · rename_i path given hRequest hAnswer
      obtain rfl := Option.some.inj h
      exact ⟨path, congrArg₂ Exchange.mk hRequest hAnswer⟩
    · cases h
  · rintro ⟨path, rfl⟩
    rfl

/-- An exchange that is not about a handle and does not retire it does not use it. -/
theorem Exchange.uses_eq_false {exchange : Exchange} {handle : DirHandle}
    (hHandle : exchange.request.handle? ≠ some handle)
    (hRetires : exchange.retires handle = false) : exchange.request.uses handle = false := by
  obtain ⟨request, answer⟩ := exchange
  cases request with
  | readdir other | entries other | closedir other =>
    exact decide_eq_false fun hOther => hHandle (congrArg some hOther)
  | teardown => cases hRetires
  | _ => rfl

/-- An exchange that is not about a handle takes nothing away from its directory. -/
theorem Exchange.passed_of_ne {exchange : Exchange} {handle : DirHandle}
    (hHandle : exchange.request.handle? ≠ some handle)
    (left : List (Except HostError DirEntry)) : exchange.passed handle left = left := by
  obtain ⟨request, answer⟩ := exchange
  cases request with
  | readdir other | entries other =>
    exact if_neg fun hOther => hHandle (congrArg some hOther)
  | _ => rfl

/-- A handle is open behind one exchange more if that gave it out, or did not retire it. -/
theorem stillOpen_concat {past : List Exchange} {exchange : Exchange} {handle : DirHandle} :
    StillOpen (past ++ [exchange]) handle ↔
      exchange.issued? = some handle ∨
        StillOpen past handle ∧ exchange.retires handle = false := by
  constructor
  · rintro ⟨before, opening, after, hPast, hIssued, hAfter⟩
    rcases List.eq_nil_or_concat after with rfl | ⟨between, last, rfl⟩
    · obtain ⟨-, hOpening⟩ := List.append_inj' hPast rfl
      exact Or.inl (List.singleton_inj.mp hOpening ▸ hIssued)
    · rw [List.concat_eq_append, ← List.cons_append, ← List.append_assoc] at hPast
      obtain ⟨rfl, hLast⟩ := List.append_inj' hPast rfl
      obtain rfl := List.singleton_inj.mp hLast
      refine Or.inr ⟨⟨before, opening, between, rfl, hIssued, ?_⟩, hAfter _ (by simp)⟩
      exact fun later hLater => hAfter later (by simp [hLater])
  · rintro (hIssued | ⟨⟨before, opening, after, rfl, hIssued, hAfter⟩, hRetires⟩)
    · exact ⟨past, exchange, [], rfl, hIssued, fun _ hNil => absurd hNil List.not_mem_nil⟩
    · refine ⟨before, opening, after ++ [exchange], by simp, hIssued, fun later hLater => ?_⟩
      rcases List.mem_append.mp hLater with hEarlier | hLast
      · exact hAfter later hEarlier
      · exact List.mem_singleton.mp hLast ▸ hRetires

/-- At first no handle is open. -/
theorem not_stillOpen_nil (handle : DirHandle) : ¬ StillOpen [] handle := by
  rintro ⟨before, opening, after, hPast, -⟩
  simp at hPast

-- ---------------------------------------------------------------------------
-- The table of records
-- ---------------------------------------------------------------------------

/-- What a request about an open directory answers. -/
def OpenDir.answer (dir : OpenDir) : Request → Except Error Answer
  | .readdir _ => Session.readAnswer dir.left.head?
  | .entries _ => ((dir.left.mapM id).mapError .host).map .entries
  | _ => .ok .done

/-- A record never answers that the handle is unknown. -/
theorem OpenDir.answer_ne_unknown (dir : OpenDir) (request : Request) :
    dir.answer request ≠ .error .unknownHandle := by
  cases request with
  | readdir handle =>
    show Session.readAnswer dir.left.head? ≠ _
    rcases dir.left.head? with _ | _ | _ <;> exact nofun
  | entries handle =>
    show ((dir.left.mapM id).mapError Error.host).map Answer.entries ≠ _
    rcases dir.left.mapM id with _ | _ <;> exact nofun
  | _ => exact nofun

namespace OpenDirs

variable {dirs next : OpenDirs} {exchange : Exchange} {handle : DirHandle} {dir : OpenDir}

/-- What an exchange does to the table. -/
inductive Serves (dirs : OpenDirs) : Exchange → OpenDirs → Prop
  | opened {path real : Text} {listing : Listing} {names : List Text} {slot : Nat} :
      dirs.isVacant slot = true →
      Serves dirs ⟨.opendir path, .ok (.handle (dirs.insertAt slot real listing names).1)⟩
        (dirs.insertAt slot real listing names).2
  | read {handle : DirHandle} {dir : OpenDir} : dirs.get? handle = some dir →
      Serves dirs ⟨.readdir handle, dir.answer (.readdir handle)⟩
        (dirs.set handle.slot dir.next.rest)
  | drained {handle : DirHandle} {dir : OpenDir} : dirs.get? handle = some dir →
      Serves dirs ⟨.entries handle, dir.answer (.entries handle)⟩
        (dirs.set handle.slot dir.drain.rest)
  | closed {handle : DirHandle} {dir : OpenDir} : dirs.get? handle = some dir →
      Serves dirs ⟨.closedir handle, dir.answer (.closedir handle)⟩ (dirs.erase handle.slot)
  /-- A handle that has no record. -/
  | unknown {request : Request} {handle : DirHandle} : request.handle? = some handle →
      dirs.get? handle = none → Serves dirs ⟨request, .error .unknownHandle⟩ dirs
  | listed {path : Text} {answer : Except Error Answer} :
      Serves dirs ⟨.readDir path, answer⟩ { dirs with opened := dirs.opened + 1 }
  | cleared : Serves dirs ⟨.teardown, .ok .done⟩ dirs.clear
  /-- A request that is not about directories, or that failed to open one. -/
  | other {exchange : Exchange} : exchange.request.handle? = none → exchange.issued? = none →
      exchange.request ≠ .teardown → Serves dirs exchange dirs

/-- A vacant slot has no record. -/
theorem lookup_of_isVacant {slot : Nat} (h : dirs.isVacant slot = true) :
    dirs.records.lookup slot = none :=
  Option.isNone_iff_eq_none.mp h

/-- A slot has a record for one handle only. -/
theorem get?_eq_none (hDir : dirs.get? handle = some dir) {other : DirHandle}
    (hSlot : other.slot = handle.slot) (hNe : other ≠ handle) : dirs.get? other = none := by
  cases hOther : dirs.get? other with
  | none => rfl
  | some otherDir => exact absurd (handle_eq_of_get? hDir hOther hSlot) hNe

/-- A handle whose slot is empty has no record. -/
theorem get?_eq_none_of_lookup (h : dirs.records.lookup handle.slot = none) :
    dirs.get? handle = none := by
  rw [get?, h, Option.filter_none]

/-- What a handle has is told by its slot. -/
theorem get?_congr (h : next.records.lookup handle.slot = dirs.records.lookup handle.slot) :
    next.get? handle = dirs.get? handle := by
  rw [get?, get?, h]

theorem lookup_erase_self (dirs : OpenDirs) (slot : Nat) :
    (dirs.erase slot).records.lookup slot = none := by
  refine List.lookup_eq_none_iff.mpr fun record hRecord => ?_
  have hNe : record.1 ≠ slot := of_decide_eq_true (List.mem_filter.mp hRecord).2
  simpa using hNe.symm

/-- Opening a directory leaves the records of other handles. -/
theorem get?_insertAt_of_ne {slot : Nat} (hVacant : dirs.isVacant slot = true) (path : Text)
    (listing : Listing) (names : List Text)
    (hNe : handle ≠ (dirs.insertAt slot path listing names).1) :
    (dirs.insertAt slot path listing names).2.get? handle = dirs.get? handle := by
  by_cases hSlot : handle.slot = slot
  · have hBefore : dirs.get? handle = none :=
      get?_eq_none_of_lookup (hSlot ▸ lookup_of_isVacant hVacant)
    rw [hBefore]
    exact get?_eq_none (dirs.get?_insertAt slot path listing names) hSlot hNe
  · have hMiss : (handle.slot == slot) = false := by simpa using hSlot
    refine get?_congr ?_
    rw [insertAt, List.lookup_cons, hMiss]

theorem get?_set_of_ne (hDir : dirs.get? handle = some dir) {other : DirHandle}
    (hNe : other ≠ handle) {rest : OpenDir} (hRest : rest.generation = dir.generation) :
    (dirs.set handle.slot rest).get? other = dirs.get? other := by
  by_cases hSlot : other.slot = handle.slot
  · rw [get?_eq_none hDir hSlot hNe, get?_eq_none (get?_set hDir hRest) hSlot hNe]
  · refine get?_congr ?_
    rw [lookup_set, if_neg hSlot]

theorem get?_erase_self (dirs : OpenDirs) (handle : DirHandle) :
    (dirs.erase handle.slot).get? handle = none :=
  get?_eq_none_of_lookup (dirs.lookup_erase_self handle.slot)

theorem get?_erase_of_ne (hDir : dirs.get? handle = some dir) {other : DirHandle}
    (hNe : other ≠ handle) : (dirs.erase handle.slot).get? other = dirs.get? other := by
  by_cases hSlot : other.slot = handle.slot
  · have hAfter := dirs.lookup_erase_self handle.slot
    rw [get?_eq_none hDir hSlot hNe, get?_eq_none_of_lookup (hSlot ▸ hAfter)]
  · exact get?_congr (dirs.lookup_erase_of_ne hSlot)

-- ---------------------------------------------------------------------------
-- What an exchange does to the records
-- ---------------------------------------------------------------------------

/-- An exchange leaves the records of all handles that it is not about. -/
theorem Serves.get?_eq (h : dirs.Serves exchange next)
    (hUses : exchange.request.uses handle = false) (hIssued : exchange.issued? ≠ some handle) :
    next.get? handle = dirs.get? handle := by
  cases h with
  | opened hVacant =>
    exact get?_insertAt_of_ne hVacant _ _ _ fun hNew => hIssued (congrArg some hNew.symm)
  | read hDir =>
    have hNe : _ ≠ handle := of_decide_eq_false hUses
    exact get?_set_of_ne hDir hNe.symm (OpenDir.took_next _).generation
  | drained hDir =>
    have hNe : _ ≠ handle := of_decide_eq_false hUses
    exact get?_set_of_ne hDir hNe.symm (OpenDir.drain_generation _)
  | closed hDir =>
    have hNe : _ ≠ handle := of_decide_eq_false hUses
    exact get?_erase_of_ne hDir hNe.symm
  | unknown | other | listed => rfl
  | cleared => cases hUses

/-- A handle that is given out has a record, which counts as the last opening. -/
theorem Serves.exists_of_issued (h : dirs.Serves exchange next)
    (hIssued : exchange.issued? = some handle) :
    dirs.get? handle = none ∧ (∃ dir, next.get? handle = some dir) ∧
      handle.generation = dirs.opened + 1 ∧ next.opened = dirs.opened + 1 := by
  obtain ⟨path, rfl⟩ := Exchange.issued?_eq_some_iff.mp hIssued
  cases h with
  | opened hVacant =>
    refine ⟨get?_eq_none_of_lookup (lookup_of_isVacant hVacant), ?_, rfl, rfl⟩
    exact ⟨_, dirs.get?_insertAt _ _ _ _⟩
  | other hHandle hNone => cases hNone

/-- A record that is not retired stays, with what the exchange left of it. -/
theorem Serves.passed (h : dirs.Serves exchange next) (hDir : dirs.get? handle = some dir)
    (hRetires : exchange.retires handle = false) :
    ∃ now, next.get? handle = some now ∧ now.path = dir.path ∧
      now.left = exchange.passed handle dir.left := by
  have hIssued : exchange.issued? ≠ some handle := by
    intro hIssued
    rw [(h.exists_of_issued hIssued).1] at hDir
    cases hDir
  by_cases hHandle : exchange.request.handle? = some handle
  · cases h with
    | @read other otherDir hOther =>
      obtain rfl := Option.some.inj hHandle
      obtain rfl := Option.some.inj (hOther.symm.trans hDir)
      obtain ⟨-, hLeft, hGeneration, -, hPath⟩ := otherDir.took_next
      exact ⟨_, get?_set hDir hGeneration, hPath, hLeft.trans (if_pos rfl).symm⟩
    | @drained other otherDir hOther =>
      obtain rfl := Option.some.inj hHandle
      obtain rfl := Option.some.inj (hOther.symm.trans hDir)
      refine ⟨_, get?_set hDir otherDir.drain_generation, otherDir.drain_path, ?_⟩
      exact otherDir.drain_left.trans (if_pos rfl).symm
    | closed =>
      obtain rfl := Option.some.inj hHandle
      exact absurd rfl (of_decide_eq_false hRetires)
    | unknown hOther hNone =>
      obtain rfl := Option.some.inj (hOther.symm.trans hHandle)
      rw [hNone] at hDir
      cases hDir
    | opened | listed | cleared => cases hHandle
    | other hNone => rw [hNone] at hHandle; cases hHandle
  · have hSame := h.get?_eq (Exchange.uses_eq_false hHandle hRetires) hIssued
    exact ⟨dir, hSame.trans hDir, rfl, (Exchange.passed_of_ne hHandle _).symm⟩

/-- No record comes about but by an opening. -/
theorem Serves.get?_eq_none (h : dirs.Serves exchange next) (hNone : dirs.get? handle = none)
    (hIssued : exchange.issued? ≠ some handle) : next.get? handle = none := by
  cases hUses : exchange.request.uses handle with
  | false => rw [h.get?_eq hUses hIssued, hNone]
  | true =>
    cases h with
    | read hDir | drained hDir | closed hDir =>
      obtain rfl := of_decide_eq_true hUses
      rw [hNone] at hDir
      cases hDir
    | unknown | other => exact hNone
    | cleared => rfl
    | opened | listed => cases hUses

/-- A handle that the count has passed and that has no record does not get one again. -/
theorem Serves.stays_closed (h : dirs.Serves exchange next) (hNone : dirs.get? handle = none)
    (hCounted : handle.generation ≤ dirs.opened) : next.get? handle = none := by
  refine h.get?_eq_none hNone fun hIssued => ?_
  obtain ⟨-, -, hGeneration, -⟩ := h.exists_of_issued hIssued
  omega

/-- A handle that is retired has no record any more. -/
theorem Serves.get?_of_retires (h : dirs.Serves exchange next)
    (hRetires : exchange.retires handle = true) : next.get? handle = none := by
  cases h with
  | closed =>
    obtain rfl := of_decide_eq_true hRetires
    exact dirs.get?_erase_self _
  | @unknown request other hHandle hNone =>
    cases request with
    | closedir asked =>
      obtain rfl := Option.some.inj hHandle
      exact of_decide_eq_true hRetires ▸ hNone
    | teardown => cases hHandle
    | _ => cases hRetires
  | cleared => rfl
  | other hHandle hIssued hTeardown =>
    obtain ⟨request, answer⟩ := exchange
    cases request with
    | closedir asked => cases hHandle
    | teardown => exact absurd rfl hTeardown
    | _ => cases hRetires
  | opened | read | drained | listed => cases hRetires

/-- After an exchange the handles with a record are the one that was given out, and those that had
one before and were not retired. -/
theorem Serves.isSome_get?_iff (h : dirs.Serves exchange next) :
    (next.get? handle).isSome = true ↔
      exchange.issued? = some handle ∨
        (dirs.get? handle).isSome = true ∧ exchange.retires handle = false := by
  by_cases hIssued : exchange.issued? = some handle
  · obtain ⟨-, ⟨dir, hDir⟩, -⟩ := h.exists_of_issued hIssued
    simp [hDir, hIssued]
  cases hRetires : exchange.retires handle with
  | true => simp [h.get?_of_retires hRetires, hIssued]
  | false =>
    cases hDir : dirs.get? handle with
    | none => simp [h.get?_eq_none hDir hIssued, hIssued]
    | some dir =>
      obtain ⟨now, hNow, -⟩ := h.passed hDir hRetires
      simp [hNow]

/-- **An accepted handle** is answered from its record. -/
theorem Serves.answer_eq (h : dirs.Serves exchange next)
    (hHandle : exchange.request.handle? = some handle) (hDir : dirs.get? handle = some dir) :
    exchange.answer = dir.answer exchange.request := by
  cases h with
  | read hOther | drained hOther | closed hOther =>
    obtain rfl := Option.some.inj hHandle
    obtain rfl := Option.some.inj (hOther.symm.trans hDir)
    rfl
  | unknown hOther hNone =>
    obtain rfl := Option.some.inj (hOther.symm.trans hHandle)
    rw [hNone] at hDir
    cases hDir
  | other hNone => rw [hNone] at hHandle; cases hHandle
  | opened | listed | cleared => cases hHandle

/-- **A handle without a record** is answered that it is unknown. -/
theorem Serves.answer_of_none (h : dirs.Serves exchange next)
    (hHandle : exchange.request.handle? = some handle) (hNone : dirs.get? handle = none) :
    exchange.answer = .error .unknownHandle := by
  cases h with
  | read hOther | drained hOther | closed hOther =>
    obtain rfl := Option.some.inj hHandle
    rw [hNone] at hOther
    cases hOther
  | unknown => rfl
  | other hNone => rw [hNone] at hHandle; cases hHandle
  | opened | listed | cleared => cases hHandle

/-- A handle is accepted when it has a record. -/
theorem Serves.accepted_iff (h : dirs.Serves exchange next)
    (hHandle : exchange.request.handle? = some handle) :
    exchange.answer ≠ .error .unknownHandle ↔ (dirs.get? handle).isSome = true := by
  cases hDir : dirs.get? handle with
  | none => simp [h.answer_of_none hHandle hDir]
  | some dir => simp [h.answer_eq hHandle hDir, dir.answer_ne_unknown]

-- ---------------------------------------------------------------------------
-- Slots and the count of openings
-- ---------------------------------------------------------------------------

/-- The handles of the records. -/
def handles (dirs : OpenDirs) : List DirHandle :=
  dirs.records.map fun record => ⟨record.1, record.2.generation⟩

/-- No slot has two records. -/
def Apart (dirs : OpenDirs) : Prop := (dirs.records.map Prod.fst).Nodup

/-- No exchange brings two records into one slot. -/
theorem Serves.apart (h : dirs.Serves exchange next) (hApart : dirs.Apart) : next.Apart := by
  have hSet (slot : Nat) (dir : OpenDir) :
      (dirs.set slot dir).records.map Prod.fst = dirs.records.map Prod.fst := by
    rw [set, List.map_map]
    refine List.map_congr_left fun record _ => ?_
    by_cases hSlot : record.1 = slot <;> simp [hSlot]
  cases h with
  | @opened path real listing names slot hVacant =>
    refine List.nodup_cons.mpr ⟨fun hMem => ?_, hApart⟩
    obtain ⟨record, hRecord, rfl⟩ := List.mem_map.mp hMem
    have hMiss := List.lookup_eq_none_iff.mp (lookup_of_isVacant hVacant) record hRecord
    simp at hMiss
  | read => rw [Apart, hSet]; exact hApart
  | drained => rw [Apart, hSet]; exact hApart
  | closed => exact (List.filter_sublist.map Prod.fst).nodup hApart
  | unknown | listed | other => exact hApart
  | cleared => exact List.nodup_nil

/-- Each record has a handle of its own. -/
theorem Apart.nodup_handles (h : dirs.Apart) : dirs.handles.Nodup := by
  refine List.Nodup.of_map DirHandle.slot ?_
  rw [handles, List.map_map]
  exact h

/-- These handles are the ones that are accepted. -/
theorem Apart.mem_handles_iff (h : dirs.Apart) :
    handle ∈ dirs.handles ↔ (dirs.get? handle).isSome = true := by
  rw [handles, List.mem_map, Option.isSome_iff_exists]
  constructor
  · rintro ⟨record, hRecord, rfl⟩
    obtain ⟨before, after, hRecords⟩ := List.append_of_mem hRecord
    refine ⟨record.2, get?_eq_some_iff.mpr ⟨?_, rfl⟩⟩
    refine List.lookup_eq_some_iff.mpr ⟨before, after, hRecords, fun other hOther => ?_⟩
    rw [Apart, hRecords, List.map_append, List.nodup_append] at h
    have hNe := h.2.2 other.1 (List.mem_map_of_mem hOther) record.1 List.mem_cons_self
    simpa using hNe.symm
  · rintro ⟨dir, hDir⟩
    obtain ⟨hLookup, hGeneration⟩ := get?_eq_some_iff.mp hDir
    obtain ⟨before, after, hRecords, -⟩ := List.lookup_eq_some_iff.mp hLookup
    exact ⟨(handle.slot, dir), by simp [hRecords], congrArg (DirHandle.mk _) hGeneration⟩

theorem length_handles (dirs : OpenDirs) : dirs.handles.length = dirs.size := List.length_map _

/-- The count of the openings never goes back, and goes up by no more than there were. -/
theorem Serves.opened_le (h : dirs.Serves exchange next) :
    dirs.opened ≤ next.opened ∧
      next.opened ≤ dirs.opened + [exchange].countP fun e => e.request.opens := by
  cases h with
  | opened | listed => exact ⟨Nat.le_succ _, Nat.le_refl _⟩
  | _ => exact ⟨Nat.le_refl _, Nat.le_add_right _ _⟩

end OpenDirs

end PathJail
