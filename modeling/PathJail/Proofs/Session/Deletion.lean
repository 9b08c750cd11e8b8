import PathJail.Host.Fixed
import PathJail.Proofs.Session.Containment
import PathJail.Proofs.Session.Lookups

/-!
# What can be deleted

A path that is to be deleted is looked up twice. The first lookup follows no alias, and what it
gives is compared with the virtual paths of the aliases; the second one follows the nearest alias.
The two agree on when a path is itself an alias: keys are canonical, so an alias that takes over at
a path which is no key, its slash at the end aside, leaves at least one name of the path behind it.
No spelling of an alias leads to its real path, then, but only to something below it.

* `exists_names_behind` — the nearest alias of a path that is none leaves a name behind.
* `yields_deletable`    — both lookups of a deletion in one closed form.
* `deletion_guarded`    — what the requests to delete ask the host for.
-/

namespace PathJail

-- ---------------------------------------------------------------------------
-- What an alias leaves behind
-- ---------------------------------------------------------------------------

namespace Resolver

open PathJail.Path (Tidy Trimmed IsName rooted trimSlashes)

variable {r : Resolver}

/-- The nearest alias of a path that is no alias leaves at least one name of the path behind. -/
theorem exists_names_behind (h : r.Canonical) {placed key source rest : Text} (hTidy : Tidy placed)
    (hNearest : NearestAlias r.aliases placed key source rest)
    (hOther : trimSlashes placed ∉ r.aliases.keys) :
    ∃ names, names ≠ [] ∧ (∀ n ∈ names, IsName n) ∧
      (rest = rooted names ∨ rest = rooted names ++ ['/']) := by
  have hEntry := mem_of_get? hNearest.entry
  have hKey : Trimmed key := h.key _ hEntry
  have hMem : key ∈ r.aliases.keys := List.mem_map_of_mem hEntry
  obtain ⟨-, rfl, hAbove, -⟩ := hNearest
  rcases hAbove with hHere | ⟨hRoot, hAbove⟩
  · -- the path is the alias
    rw [← hHere, Path.trimSlashes_of_trimmed hKey] at hOther
    exact absurd hMem hOther
  · obtain ⟨tail, rfl⟩ := (List.prefix_append_right_inj key).mp hAbove
    obtain ⟨names, hNames, hTail⟩ := Path.tidy_iff.mp (Path.tidy_of_append hTidy)
    refine ⟨names, ?_, hNames, hTail.symm.imp_left fun h => h.2⟩
    rintro rfl
    -- the path is the alias with a slash behind it
    rcases hTail with hSlash | ⟨hNonempty, -⟩
    · obtain rfl : tail = [] := (List.cons.inj hSlash).2
      rw [List.append_nil, Path.trimSlashes_append_slash hKey hRoot] at hOther
      exact hOther hMem
    · exact hNonempty rfl

end Resolver

-- ---------------------------------------------------------------------------
-- Deletions
-- ---------------------------------------------------------------------------

namespace Session

open PathJail.Path (IsName rooted trimSlashes)
open Resolver (AtOrAbove NearestAlias through)

variable {s : Session} {σ : Type}

/-- What the table has is told by its keys. -/
theorem contains_iff {table : AliasTable} {key : Text} :
    table.contains key = true ↔ key ∈ table.keys := by
  rw [AliasTable.contains, Option.isSome_iff_ne_none, ne_eq, AliasTable.get?_eq_none_iff,
    Decidable.not_not]

theorem contains_of_isEmpty {table : AliasTable} (h : table.isEmpty = true) (key : Text) :
    table.contains key = false := by
  rw [Bool.eq_false_iff, ne_eq, contains_iff, AliasTable.keys, List.isEmpty_iff.mp h]
  exact List.not_mem_nil

/-- The path that is deleted: nothing where the requested one is an alias, and else what the lookup
that follows aliases gives. -/
def deletion (s : Session) (raised : Bool) (path : Text) : Except Error Text := do
  let virtual ← s.normalized path
  let placed ← s.resolver.confine raised virtual
  if s.resolver.aliases.contains (trimSlashes placed) then throw .aliasDeletion
  return (← s.resolver.lookup raised virtual true).real

/-- A path that cannot be placed is not deleted, for the same reason. -/
theorem deletion_of_error {raised : Bool} {path : Text} {e : Error}
    (h : s.unaliased raised path = .error e) : s.deletion raised path = .error e := by
  cases hVirtual : s.normalized path with
  | error e' =>
    rw [unaliased, hVirtual] at h
    rw [deletion, hVirtual]
    exact h
  | ok virtual =>
    rw [unaliased_of_normalized hVirtual] at h
    rw [deletion, hVirtual]
    show (s.resolver.confine raised virtual >>= _) = _
    rw [h]
    rfl

/-- A path that is no alias is deleted where it is, or through the nearest alias. -/
theorem deletion_of_placed {raised : Bool} {path placed : Text}
    (h : s.unaliased raised path = .ok placed) :
    s.deletion raised path =
      if s.resolver.aliases.contains (trimSlashes placed) then .error .aliasDeletion
      else match s.resolver.crossing? placed with
        | none => .ok placed
        | some real =>
          if s.resolver.limits.maxPathLength ≤ Text.byteLength real then
            .error (.nameTooLong (Text.byteLength real) s.resolver.limits.maxPathLength)
          else .ok real := by
  cases hVirtual : s.normalized path with
  | error e =>
    rw [unaliased, hVirtual] at h
    cases h
  | ok virtual =>
    rw [unaliased_of_normalized hVirtual] at h
    rw [deletion, hVirtual]
    show (s.resolver.confine raised virtual >>= _) = _
    rw [h]
    show (if _ then _ else _) = _
    split
    · rfl
    · rw [Resolver.lookup_true_of_confine h]
      cases s.resolver.crossing? placed with
      | none => rfl
      | some real =>
        simp only
        split <;> rfl

/-- Whether a canonical path is an alias is known without a call to the host. An empty table does
not even take a lookup. -/
theorem yields_isAlias (s : Session) (virtual : Text) (host : Host σ) (state : σ) :
    (s.isAlias virtual).Yields host state
      (if s.resolver.aliases.isEmpty then .ok false
        else (s.resolver.confine (host.raised state) virtual).map fun placed =>
          s.resolver.aliases.contains (trimSlashes placed)) [] := by
  unfold isAlias
  split
  · exact (Attempt.yields_pure _).mpr ⟨rfl, rfl⟩
  · have hFind := s.resolver.yields_find virtual false host state
    rw [Resolver.lookup_false] at hFind
    cases hPlaced : s.resolver.confine (host.raised state) virtual with
    | error e =>
      rw [hPlaced] at hFind
      exact hFind.bind_error
    | ok placed =>
      rw [hPlaced] at hFind
      exact hFind.then ((Attempt.yields_pure _).mpr ⟨rfl, rfl⟩)

/-- Both lookups of a deletion in one. Neither asks the host. -/
theorem yields_deletable (s : Session) (path : Text) (host : Host σ) (state : σ) :
    (s.deletable path).Yields host state (s.deletion (host.raised state) path) [] := by
  unfold deletable deletion
  cases hVirtual : s.normalized path with
  | error e => exact (Attempt.yields_throw e).mpr ⟨rfl, rfl⟩
  | ok virtual =>
    rw [Attempt.ofExcept_ok_bind]
    have hAlias := s.yields_isAlias virtual host state
    simp only [bind, Except.bind]
    cases hPlaced : s.resolver.confine (host.raised state) virtual with
    | error e =>
      rw [hPlaced] at hAlias
      have hLookup : s.resolver.lookup (host.raised state) virtual true = .error e :=
        Resolver.lookup_of_confine_error hPlaced
      -- with an empty table it is the second lookup that fails, else the first
      cases hTable : s.resolver.aliases.isEmpty with
      | true =>
        rw [hTable, if_pos rfl] at hAlias
        exact hAlias.then (Resolver.yields_find_error hLookup)
      | false =>
        rw [hTable, if_neg Bool.false_ne_true] at hAlias
        exact hAlias.bind_error
    | ok placed =>
      have hIsAlias : (s.isAlias virtual).Yields host state
          (.ok (s.resolver.aliases.contains (trimSlashes placed))) [] := by
        rw [hPlaced] at hAlias
        cases hTable : s.resolver.aliases.isEmpty with
        | true =>
          rw [hTable, if_pos rfl] at hAlias
          rwa [contains_of_isEmpty hTable]
        | false =>
          rwa [hTable, if_neg Bool.false_ne_true] at hAlias
      refine hIsAlias.then ?_
      by_cases hKey : trimSlashes placed ∈ s.resolver.aliases.keys
      · simp only [contains_iff.mpr hKey, if_true]
        exact Attempt.yields_note_bind.mpr ((Attempt.yields_throw _).mpr ⟨rfl, rfl⟩)
      · have hContains : s.resolver.aliases.contains (trimSlashes placed) = false :=
          Bool.eq_false_iff.mpr fun h => hKey (contains_iff.mp h)
        simp only [hContains, if_false, Bool.false_eq_true]
        cases hLookup : s.resolver.lookup (host.raised state) virtual true with
        | error e => exact Resolver.yields_find_error hLookup
        | ok resolved =>
          exact Resolver.yields_find_then hLookup ((Attempt.yields_pure _).mpr ⟨rfl, rfl⟩)

-- ---------------------------------------------------------------------------
-- Requests to delete
-- ---------------------------------------------------------------------------

/-- A request to delete a path, with the call to the host that does it. -/
inductive Deletes (s : Session) : Request → Text → (Text → Call) → Prop
  | unlink (path : Text) : Deletes s (.unlink path) path .unlink
  | rmdir (path : Text) : s.phase = .normal → Deletes s (.rmdir path) path .rmdir

/-- In a session with a base both requests look the path up in the same way and then make their
call. -/
theorem perform_of_deletes (hs : s.Confined) {request : Request} {path : Text} {call : Text → Call}
    (hRequest : s.Deletes request path call) : ∃ ask : Text → Attempt Unit,
      s.perform request = s.observe (fun _ => .done) (s.deletable path >>= ask) ∧
      ∀ (real : Text) (host : Host σ) (state : σ), ∃ result,
        (ask real).Yields host state result [call real] := by
  cases hRequest with
  | unlink =>
    refine ⟨fun real => Attempt.ask (.unlink real), ?_, fun real host state => ?_⟩
    · rw [perform, Session.unlink, Resolver.hasBase, hs.base]
      rfl
    · exact ⟨_, Attempt.yields_ask (.unlink real) host state⟩
  | rmdir _ hPhase =>
    refine ⟨fun real => Attempt.ask (.rmdir real), ?_, fun real host state => ?_⟩
    · rw [perform, Session.rmdir, bypasses_eq_false hs hPhase]
      rfl
    · exact ⟨_, Attempt.yields_ask (.rmdir real) host state⟩

/-- What a deletion asks the host for: nothing if it is refused, else the one call. -/
theorem run_of_deletes (hs : s.Confined) {request : Request} {path : Text} {call : Text → Call}
    (hRequest : s.Deletes request path call) (host : Host σ) (state : σ) :
    (∀ e, s.deletion (host.raised state) path = .error e →
      ((s.perform request).run host state).value = (.error e, s) ∧
        ((s.perform request).run host state).calls = []) ∧
    ∀ real, s.deletion (host.raised state) path = .ok real →
      ((s.perform request).run host state).calls = [call real] := by
  obtain ⟨ask, hPerform, hAsk⟩ := perform_of_deletes hs hRequest
  have hDeletable := s.yields_deletable path host state
  rw [hPerform]
  constructor
  · intro e hDeletion
    rw [hDeletion] at hDeletable
    have hRun : (s.observe (fun _ => Answer.done) (s.deletable path >>= ask)).Yields host state
        (.error e, s) [] := yields_observe hDeletable.bind_error
    exact ⟨hRun.value, hRun.calls⟩
  · intro real hDeletion
    rw [hDeletion] at hDeletable
    obtain ⟨result, hResult⟩ := hAsk real host state
    exact (yields_observe (hDeletable.then hResult)).calls

/--
**No alias is deleted.** In every session that comes about, with a base, for every spelling of a
path, `rmdir` while the session serves its client and `unlink` in every phase. Let `placed` be what
the path comes to without aliases. If it is an alias, its slash at the end aside, the request is
refused and the host is asked for nothing. If it is none, the host is asked for one call: on
`placed`, or, where an alias takes over, on that alias's real path with at least one name behind it,
unless that is too long. A path that cannot be looked up asks for nothing either.
-/
theorem deletion_guarded (hReach : s.Reachable) {base : Text} (hBase : s.resolver.base = some base)
    {request : Request} {path : Text} {call : Text → Call} (hRequest : s.Deletes request path call)
    (host : Host σ) (state : σ) :
    let table := s.resolver.aliases
    let limit := s.resolver.limits.maxPathLength
    let run := (s.perform request).run host state
    (∀ e, s.unaliased (host.raised state) path = .error e →
      run.value = (.error e, s) ∧ run.calls = []) ∧
    ∀ placed, s.unaliased (host.raised state) path = .ok placed →
      (trimSlashes placed ∈ table.keys →
        run.value = (.error .aliasDeletion, s) ∧ run.calls = []) ∧
      (trimSlashes placed ∉ table.keys →
        (∀ key ∈ table.keys, ¬ AtOrAbove key placed) ∧ run.calls = [call placed] ∨
        ∃ key source rest names, NearestAlias table placed key source rest ∧
          names ≠ [] ∧ (∀ n ∈ names, IsName n) ∧
          (rest = rooted names ∨ rest = rooted names ++ ['/']) ∧
          if limit ≤ Text.byteLength (through source rest) then
            run.value = (.error (.nameTooLong (Text.byteLength (through source rest)) limit), s) ∧
              run.calls = []
          else run.calls = [call (through source rest)]) := by
  intro table limit run
  have hs : s.Confined := ⟨hReach.resolver.canonical, by rw [hBase]; rfl⟩
  obtain ⟨hRefused, hCalled⟩ := run_of_deletes hs hRequest host state
  refine ⟨fun e hPlaced => hRefused e (deletion_of_error hPlaced), fun placed hPlaced => ?_⟩
  have hDeletion := deletion_of_placed hPlaced
  constructor
  · intro hKey
    rw [if_pos (contains_iff.mpr hKey)] at hDeletion
    exact hRefused _ hDeletion
  · intro hOther
    have hTidy := tidy_of_unaliased hs.canonical hPlaced
    rw [if_neg fun h => hOther (contains_iff.mp h)] at hDeletion
    cases hCrossing : s.resolver.crossing? placed with
    | none =>
      left
      rw [hCrossing] at hDeletion
      exact ⟨(Resolver.crossing?_eq_none_iff hs.canonical hTidy).mp hCrossing,
        hCalled placed hDeletion⟩
    | some real =>
      right
      rw [hCrossing] at hDeletion
      obtain ⟨key, source, rest, hNearest, rfl⟩ :=
        Resolver.crossing?_eq_some hs.canonical hTidy hCrossing
      obtain ⟨names, hNonempty, hNames, hRest⟩ :=
        Resolver.exists_names_behind hs.canonical hTidy hNearest hOther
      refine ⟨key, source, rest, names, hNearest, hNonempty, hNames, hRest, ?_⟩
      simp only at hDeletion
      split at hDeletion
      · rename_i hLong
        rw [if_pos hLong]
        exact hRefused _ hDeletion
      · rename_i hFits
        rw [if_neg hFits]
        exact hCalled _ hDeletion

/-- A session with the base `/store` and an alias of `/var/pub` at `/pub`. -/
def pubSession : Session := { storeSession with resolver := Resolver.pubStore }

/-- The session comes about by two requests. -/
theorem reachable_pubSession : pubSession.Reachable := by
  have hInstalled : (storeSession.installAlias {} ⟨"/var//pub/".toList, "/pub".toList⟩).Ends
      ({ installed := 1 }, pubSession) :=
    Resolver.ends_addAlias_pubStore.bind (.done _)
  have hAliases : (storeSession.installAliases [⟨"/var//pub/".toList, "/pub".toList⟩]).Ends
      ({ installed := 1 }, pubSession) := by
    have hBase : storeSession.resolver.hasBase = true := rfl
    rw [installAliases, if_pos hBase, List.foldlM_cons]
    exact hInstalled.bind (.done _)
  exact .perform (.installAliases [⟨"/var//pub/".toList, "/pub".toList⟩]) reachable_storeSession
    (hAliases.bind (.done _))

/-- However the alias is spelt it stays, and what lies below it is deleted at its real path. -/
theorem deletion_guarded_pub :
    pubSession.Reachable ∧
      ((pubSession.perform (.unlink "/pub/.//".toList)).run (({} : FixedHost).toHost) false).calls =
        [] ∧
      ((pubSession.perform (.rmdir "/pub/a/".toList)).run (({} : FixedHost).toHost) false).calls =
        [.rmdir "/var/pub/a".toList] := by
  obtain ⟨names, hNames⟩ := reachable_pubSession.resolver.baseNames
  have hAlias : pubSession.unaliased false "/pub/.//".toList = .ok "/store/pub".toList := by
    have hVirtual : pubSession.normalized "/pub/.//".toList = .ok "/pub".toList := by
      rw [normalized, Path.clean_eq_normal]
      rfl
    rw [unaliased_of_normalized hVirtual, Resolver.confine_eq_placement hNames,
      Resolver.placement, Path.clean_eq_normal]
    rfl
  have hBelow : pubSession.unaliased false "/pub/a/".toList = .ok "/store/pub/a".toList := by
    have hVirtual : pubSession.normalized "/pub/a/".toList = .ok "/pub/a".toList := by
      rw [normalized, Path.clean_eq_normal]
      rfl
    rw [unaliased_of_normalized hVirtual, Resolver.confine_eq_placement hNames,
      Resolver.placement, Path.clean_eq_normal]
    rfl
  refine ⟨reachable_pubSession, ?_, ?_⟩
  · have hGuarded := (deletion_guarded reachable_pubSession rfl (.unlink "/pub/.//".toList)
      (({} : FixedHost).toHost) false).2 _ hAlias
    exact (hGuarded.1 (by decide)).2
  · have hGuarded := ((deletion_guarded reachable_pubSession rfl (.rmdir "/pub/a/".toList rfl)
      (({} : FixedHost).toHost) false).2 _ hBelow).2 (by decide)
    have hAbove : AtOrAbove "/store/pub".toList "/store/pub/a".toList :=
      Or.inr ⟨by decide, "a".toList, rfl⟩
    obtain ⟨key, source, rest, names, hNearest, -, -, -, hCalls⟩ :=
      hGuarded.resolve_left fun hNone => hNone.1 _ (by decide) hAbove
    obtain ⟨rfl, rfl⟩ := Prod.mk.inj (List.mem_singleton.mp (Resolver.mem_of_get? hNearest.entry))
    have hSplit : "/store/pub".toList ++ "/a".toList = "/store/pub".toList ++ rest := hNearest.split
    obtain rfl := List.append_cancel_left hSplit
    exact hCalls

end Session

end PathJail
