import Mathlib.Data.List.Perm.Subperm
import PathJail.Proofs.Text.Order
import PathJail.Session.Request

/-!
# What requests do to open directories

A read takes the first of the results that are left of a directory, and the table gives the record
of a handle to that handle alone. So whatever else is asked of a session, a directory goes on where
its own reads left it.

* `OpenDir.overlay`, `OpenDir.left` — what the reads of a directory give, and what is left of it.
* `OpenDir.took_next`               — one read takes the first result.
* `OpenDirs.Step`                   — all that a request can do to the table.
* `OpenDirs.Step.get?`              — a step leaves the records of other handles as they are.
-/

namespace PathJail

-- ---------------------------------------------------------------------------
-- One directory
-- ---------------------------------------------------------------------------

namespace OpenDir

variable {dir : OpenDir}

/-- What the client sees of an item of the host, where these names are those of aliases. -/
def shown (names : List Text) : ListingItem → Option (Except HostError DirEntry)
  | .read (.error failure) => some (.error failure)
  | .read (.ok entry) => if names.contains entry.name then none else some (.ok entry.visible)
  | .unnamed _ => none

/-- The results of the host without the entries of these names, and then the names. -/
def overlay (listing : Listing) (names : List Text) : List (Except HostError DirEntry) :=
  listing.filterMap (shown names) ++ names.map fun name => .ok ⟨name, none, true⟩

/-- What is left of a directory. -/
def left (dir : OpenDir) : List (Except HostError DirEntry) := overlay dir.pending dir.aliases

/-- What a read gives that finds this result; behind the last one there is no entry. -/
def given : Option (Except HostError DirEntry) → Except HostError (Option DirEntry)
  | none => .ok none
  | some result => result.map some

/-- A read took the first result that was left. -/
structure Took (dir : OpenDir) (step : Step (Option DirEntry)) : Prop where
  result : step.result = given dir.left.head?
  rest : step.rest.left = dir.left.tail
  generation : step.rest.generation = dir.generation
  aliases : step.rest.aliases <:+ dir.aliases
  path : step.rest.path = dir.path

/-- Induction on the host's results, since a read passes over those that are hidden. The names are
listed behind the last of them. -/
theorem took_next (dir : OpenDir) : Took dir dir.next := by
  have key : ∀ pending : Listing, Took { dir with pending := pending } (next.go dir pending) := by
    intro pending
    induction pending with
    | nil =>
      obtain ⟨generation, path, before, names⟩ := dir
      cases names with
      | nil => exact ⟨rfl, rfl, rfl, List.suffix_refl _, rfl⟩
      | cons name names => exact ⟨rfl, rfl, rfl, List.suffix_cons name names, rfl⟩
    | cons item rest ih =>
      -- what is passed over is not left, so the read behind it takes the same result
      have hPassed (hShown : shown dir.aliases item = none) :
          left { dir with pending := item :: rest } = left { dir with pending := rest } := by
        rw [left, overlay, List.filterMap_cons_none hShown]
        rfl
      cases item with
      | unnamed raw =>
        have hLeft := hPassed rfl
        exact ⟨by rw [hLeft]; exact ih.result, by rw [hLeft]; exact ih.rest, ih.generation,
          ih.aliases, ih.path⟩
      | read result =>
        cases result with
        | error failure =>
          rw [next.go]
          exact ⟨rfl, rfl, rfl, List.suffix_refl _, rfl⟩
        | ok entry =>
          rw [next.go]
          by_cases hHidden : dir.hides entry.name = true
          · have hLeft := hPassed (if_pos hHidden)
            rw [if_pos hHidden]
            exact ⟨by rw [hLeft]; exact ih.result, by rw [hLeft]; exact ih.rest, ih.generation,
              ih.aliases, ih.path⟩
          · have hLeft : left { dir with pending := .read (.ok entry) :: rest } =
                .ok entry.visible :: left { dir with pending := rest } := by
              have hShown : shown dir.aliases (.read (.ok entry)) = some (.ok entry.visible) :=
                if_neg hHidden
              rw [left, overlay, List.filterMap_cons_some hShown]
              rfl
            rw [if_neg hHidden]
            exact ⟨by rw [hLeft]; rfl, by rw [hLeft]; rfl, rfl, List.suffix_refl _, rfl⟩
  exact key dir.pending

/-- Reading on takes names off the front. -/
theorem drain_aliases_suffix (dir : OpenDir) : dir.drain.rest.aliases <:+ dir.aliases := by
  fun_induction drain dir with
  | case1 dir failure h => exact dir.took_next.aliases
  | case2 dir h => exact dir.took_next.aliases
  | case3 dir entry h step ih => exact ih.trans dir.took_next.aliases

/-- Reading on leaves the number of the opening. -/
theorem drain_generation (dir : OpenDir) : dir.drain.rest.generation = dir.generation := by
  fun_induction drain dir with
  | case1 dir failure h => exact dir.took_next.generation
  | case2 dir h => exact dir.took_next.generation
  | case3 dir entry h step ih => exact ih.trans dir.took_next.generation

theorem drain_path (dir : OpenDir) : dir.drain.rest.path = dir.path := by
  fun_induction drain dir with
  | case1 dir failure h => exact dir.took_next.path
  | case2 dir h => exact dir.took_next.path
  | case3 dir entry h step ih => exact ih.trans dir.took_next.path

/-- What a read gives says what was left. -/
theorem left_eq_cons {dir : OpenDir} {result : Except HostError DirEntry}
    (h : dir.next.result = result.map some) : dir.left = result :: dir.next.rest.left := by
  obtain ⟨hResult, hRest, -⟩ := dir.took_next
  rw [h] at hResult
  cases hLeft : dir.left with
  | nil => rw [hLeft] at hResult; cases result <;> cases hResult
  | cons first rest =>
    rw [hLeft] at hResult hRest
    have hFirst : first = result := by
      cases first <;> cases result <;> cases hResult <;> rfl
    rw [hFirst, hRest, List.tail_cons]

/-- A read that finds the end shows that nothing was left. -/
theorem left_eq_nil {dir : OpenDir} (h : dir.next.result = .ok none) : dir.left = [] := by
  have hResult := dir.took_next.result
  rw [h] at hResult
  cases hLeft : dir.left with
  | nil => rfl
  | cons first rest => rw [hLeft] at hResult; cases first <;> cases hResult

/-- Reading on gives all entries that are left, or the first failure among the results. -/
theorem drain_result (dir : OpenDir) : dir.drain.result = dir.left.mapM id := by
  fun_induction drain dir with
  | case1 dir failure h =>
    have hLeft : dir.left = .error failure :: _ := left_eq_cons h
    rw [hLeft]
    rfl
  | case2 dir h =>
    rw [left_eq_nil h]
    rfl
  | case3 dir entry h step ih =>
    have hLeft : dir.left = .ok entry :: _ := left_eq_cons h
    rw [hLeft, List.mapM_cons, ← ih]
    cases step.result <;> rfl

/-- What is behind the first failure, or nothing. -/
theorem drain_left (dir : OpenDir) :
    dir.drain.rest.left = (dir.left.dropWhile Except.isOk).tail := by
  fun_induction drain dir with
  | case1 dir failure h =>
    have hLeft : dir.left = .error failure :: _ := left_eq_cons h
    rw [hLeft]
    rfl
  | case2 dir h =>
    rw [dir.took_next.rest, left_eq_nil h]
    rfl
  | case3 dir entry h step ih =>
    have hLeft : dir.left = .ok entry :: _ := left_eq_cons h
    rw [hLeft]
    exact ih

end OpenDir

-- ---------------------------------------------------------------------------
-- The table of records
-- ---------------------------------------------------------------------------

/-- The requests that take something away from an open directory, or close it. -/
def Request.uses (handle : DirHandle) : Request → Bool
  | .readdir other | .entries other | .closedir other => other = handle
  | .teardown => true
  | _ => false

namespace OpenDirs

variable {dirs next : OpenDirs} {handle other : DirHandle} {dir : OpenDir}

/-- Of one slot more than there are records, one is vacant. -/
theorem exists_vacant (dirs : OpenDirs) :
    ∃ slot ∈ List.range (dirs.size + 1), dirs.isVacant slot = true := by
  by_contra hFull
  have hSubset : List.range (dirs.size + 1) ⊆ dirs.records.map Prod.fst := by
    intro slot hSlot
    have hOccupied : dirs.records.lookup slot ≠ none := fun h =>
      hFull ⟨slot, hSlot, by rw [isVacant, h]; rfl⟩
    obtain ⟨dir, hDir⟩ := Option.ne_none_iff_exists'.mp hOccupied
    obtain ⟨before, after, hRecords, -⟩ := List.lookup_eq_some_iff.mp hDir
    rw [hRecords, List.map_append]
    exact List.mem_append_right _ List.mem_cons_self
  have hNodup : (List.range (dirs.size + 1)).Nodup := List.nodup_range
  have hLength := (hNodup.subperm hSubset).length_le
  rw [List.length_range, List.length_map] at hLength
  exact Nat.not_succ_le_self _ hLength

/-- The slot that an opening takes is vacant. -/
theorem lookup_vacantSlot (dirs : OpenDirs) : dirs.records.lookup dirs.vacantSlot = none := by
  obtain ⟨slot, hSlot, hVacant⟩ := dirs.exists_vacant
  cases hFound : (List.range (dirs.size + 1)).find? dirs.isVacant with
  | none => exact absurd hVacant (List.find?_eq_none.mp hFound slot hSlot)
  | some found =>
    have hFoundVacant : dirs.isVacant found = true := List.find?_some hFound
    rw [vacantSlot, hFound]
    exact Option.isNone_iff_eq_none.mp hFoundVacant

/-- A handle has the record in its slot, if that counts as the same opening. -/
theorem get?_eq_some_iff : dirs.get? handle = some dir ↔
    dirs.records.lookup handle.slot = some dir ∧ dir.generation = handle.generation := by
  rw [get?, Option.filter_eq_some_iff, decide_eq_true_eq]

/-- Two handles with records in one slot are the same. -/
theorem handle_eq_of_get? {otherDir : OpenDir} (h : dirs.get? handle = some dir)
    (hOther : dirs.get? other = some otherDir) (hSlot : other.slot = handle.slot) :
    other = handle := by
  obtain ⟨hLookup, hGeneration⟩ := get?_eq_some_iff.mp h
  obtain ⟨hOtherLookup, hOtherGeneration⟩ := get?_eq_some_iff.mp hOther
  rw [hSlot, hLookup] at hOtherLookup
  obtain rfl := Option.some.inj hOtherLookup
  obtain ⟨slot, generation⟩ := handle
  obtain ⟨otherSlot, otherGeneration⟩ := other
  exact congrArg₂ DirHandle.mk hSlot (hOtherGeneration.symm.trans hGeneration)

/-- A record is put into one slot and no other. -/
theorem lookup_set (dirs : OpenDirs) (slot : Nat) (dir : OpenDir) (key : Nat) :
    (dirs.set slot dir).records.lookup key =
      if key = slot then (dirs.records.lookup key).map fun _ => dir
      else dirs.records.lookup key := by
  simp only [set]
  induction dirs.records with
  | nil => simp
  | cons record records ih =>
    obtain ⟨here, old⟩ := record
    by_cases hHere : key = here
    · subst hHere
      by_cases hSlot : key = slot <;> simp [hSlot]
    · have hMiss : (key == here) = false := by simpa using hHere
      by_cases hSlot : here = slot
      · subst hSlot
        simpa [List.lookup_cons, hMiss, hHere] using ih
      · simpa [List.lookup_cons, hMiss, hSlot] using ih

/-- Other slots keep their records when one is emptied. -/
theorem lookup_erase_of_ne (dirs : OpenDirs) {slot key : Nat} (h : key ≠ slot) :
    (dirs.erase slot).records.lookup key = dirs.records.lookup key := by
  simp only [erase]
  induction dirs.records with
  | nil => rfl
  | cons record records ih =>
    obtain ⟨here, old⟩ := record
    by_cases hSlot : here = slot
    · subst hSlot
      have hMiss : (key == here) = false := by simpa using h
      rw [List.filter_cons_of_neg (by simp), ih, List.lookup_cons, hMiss]
    · rw [List.filter_cons_of_pos (by simpa using hSlot), List.lookup_cons, List.lookup_cons, ih]

/-- A new handle has the new record. -/
theorem get?_insertAt (dirs : OpenDirs) (slot : Nat) (path : Text) (listing : Listing)
    (names : List Text) :
    (dirs.insertAt slot path listing names).2.get? (dirs.insertAt slot path listing names).1 =
      some ⟨dirs.opened + 1, path, listing, names⟩ := by
  refine get?_eq_some_iff.mpr ⟨?_, rfl⟩
  simp [insertAt]

theorem get?_insert (dirs : OpenDirs) (path : Text) (listing : Listing) (names : List Text) :
    (dirs.insert path listing names).2.get? (dirs.insert path listing names).1 =
      some ⟨dirs.opened + 1, path, listing, names⟩ :=
  dirs.get?_insertAt _ path listing names

/-- A record that is read to its end and closed again leaves the others as they were. -/
theorem erase_set_insertAt {dirs : OpenDirs} {slot : Nat}
    (hVacant : dirs.records.lookup slot = none) (path : Text) (listing : Listing)
    (names : List Text) (dir : OpenDir) :
    ((dirs.insertAt slot path listing names).2.set slot dir).erase slot =
      { dirs with opened := dirs.opened + 1 } := by
  have hOthers : ∀ record ∈ dirs.records, record.1 ≠ slot := by
    intro record hRecord hSlot
    have hMiss := List.lookup_eq_none_iff.mp hVacant record hRecord
    rw [hSlot, bne_self_eq_false] at hMiss
    cases hMiss
  have hSet : dirs.records.map (fun record =>
      if record.1 = slot then (slot, dir) else record) = dirs.records := by
    refine (List.map_congr_left fun record hRecord => ?_).trans (List.map_id _)
    rw [if_neg (hOthers record hRecord)]
    rfl
  have hErase : dirs.records.filter (fun record => record.1 ≠ slot) = dirs.records :=
    List.filter_eq_self.mpr fun record hRecord => decide_eq_true (hOthers record hRecord)
  simp only [insertAt, set, erase, List.map_cons, if_true, hSet]
  rw [List.filter_cons_of_neg (by simp), hErase]

/-- What is opened, read and closed leaves the count of the openings alone. -/
theorem erase_set_insert (dirs : OpenDirs) (path : Text) (listing : Listing) (names : List Text)
    (dir : OpenDir) :
    ((dirs.insert path listing names).2.set dirs.vacantSlot dir).erase dirs.vacantSlot =
      { dirs with opened := dirs.opened + 1 } :=
  erase_set_insertAt dirs.lookup_vacantSlot path listing names dir

-- ---------------------------------------------------------------------------
-- Steps of the table
-- ---------------------------------------------------------------------------

/-- What a request may do to the open directories. A request that fails may leave them alone. -/
inductive Step (dirs : OpenDirs) : Request → OpenDirs → Prop
  | same (request : Request) : Step dirs request dirs
  | opened (path real : Text) (listing : Listing) {names : List Text} :
      names.Pairwise (· < ·) → Step dirs (.opendir path) (dirs.insert real listing names).2
  | read {handle : DirHandle} {dir : OpenDir} : dirs.get? handle = some dir →
      Step dirs (.readdir handle) (dirs.set handle.slot dir.next.rest)
  | drained {handle : DirHandle} {dir : OpenDir} : dirs.get? handle = some dir →
      Step dirs (.entries handle) (dirs.set handle.slot dir.drain.rest)
  | closed {handle : DirHandle} {dir : OpenDir} : dirs.get? handle = some dir →
      Step dirs (.closedir handle) (dirs.erase handle.slot)
  /-- A directory that was opened, read and closed in one is counted. -/
  | listed (path : Text) : Step dirs (.readDir path) { dirs with opened := dirs.opened + 1 }
  | cleared : Step dirs .teardown dirs.clear

/-- The names that are left of each directory are in strictly ascending order. -/
def Ascending (dirs : OpenDirs) : Prop :=
  ∀ record ∈ dirs.records, record.2.aliases.Pairwise (· < ·)

/-- The names of every record ascend. -/
theorem Ascending.get? (h : dirs.Ascending) (hDir : dirs.get? handle = some dir) :
    dir.aliases.Pairwise (· < ·) := by
  obtain ⟨before, after, hRecords, -⟩ := List.lookup_eq_some_iff.mp (get?_eq_some_iff.mp hDir).1
  exact h (handle.slot, dir) (by rw [hRecords]; simp)

theorem Ascending.set (h : dirs.Ascending) (slot : Nat) (hDir : dir.aliases.Pairwise (· < ·)) :
    (dirs.set slot dir).Ascending := by
  intro record hRecord
  obtain ⟨old, hOld, rfl⟩ := List.mem_map.mp hRecord
  split
  · exact hDir
  · exact h old hOld

/-- **No request** brings them out of order. -/
theorem Ascending.step {request : Request} (h : dirs.Ascending) (hStep : dirs.Step request next) :
    next.Ascending := by
  cases hStep with
  | same => exact h
  | opened path real listing hNames =>
    intro record hRecord
    rcases List.mem_cons.mp hRecord with rfl | hOld
    · exact hNames
    · exact h record hOld
  | read hDir => exact h.set _ ((h.get? hDir).sublist (OpenDir.took_next _).aliases.sublist)
  | drained hDir => exact h.set _ ((h.get? hDir).sublist (OpenDir.drain_aliases_suffix _).sublist)
  | closed => exact fun record hRecord => h record (List.mem_filter.mp hRecord).1
  | listed => exact h
  | cleared => exact nofun

/-- Two handles with records have different slots. -/
theorem slot_ne_of_get? {otherDir : OpenDir} (h : dirs.get? handle = some dir)
    (hOther : dirs.get? other = some otherDir) (hNe : other ≠ handle) :
    handle.slot ≠ other.slot :=
  fun hSlot => hNe (handle_eq_of_get? h hOther hSlot.symm)

/-- A step that is not about a handle leaves its record as it is. -/
theorem Step.get? {request : Request} (hStep : dirs.Step request next)
    (hRequest : request.uses handle = false) (hDir : dirs.get? handle = some dir) :
    next.get? handle = some dir := by
  obtain ⟨hLookup, hGeneration⟩ := get?_eq_some_iff.mp hDir
  cases hStep with
  | same => exact hDir
  | opened path real listing hNames =>
    have hSlot : handle.slot ≠ dirs.vacantSlot := by
      intro hSlot
      rw [hSlot, lookup_vacantSlot] at hLookup
      cases hLookup
    have hMiss : (handle.slot == dirs.vacantSlot) = false := by simpa using hSlot
    refine get?_eq_some_iff.mpr ⟨?_, hGeneration⟩
    rw [insert, insertAt, List.lookup_cons, hMiss]
    exact hLookup
  | read hOther | drained hOther =>
    have hSlot := slot_ne_of_get? hDir hOther (of_decide_eq_false hRequest)
    refine get?_eq_some_iff.mpr ⟨?_, hGeneration⟩
    rwa [lookup_set, if_neg hSlot]
  | closed hOther =>
    have hSlot := slot_ne_of_get? hDir hOther (of_decide_eq_false hRequest)
    refine get?_eq_some_iff.mpr ⟨?_, hGeneration⟩
    rwa [lookup_erase_of_ne dirs hSlot]
  | listed => exact hDir
  | cleared => cases hRequest

/-- A read of a handle leaves what is behind the first result. -/
theorem get?_set (hDir : dirs.get? handle = some dir) {rest : OpenDir}
    (hRest : rest.generation = dir.generation) :
    (dirs.set handle.slot rest).get? handle = some rest := by
  obtain ⟨hLookup, hGeneration⟩ := get?_eq_some_iff.mp hDir
  refine get?_eq_some_iff.mpr ⟨?_, hRest.trans hGeneration⟩
  rw [lookup_set, if_pos rfl, hLookup]
  rfl

end OpenDirs

end PathJail
