import PathJail.Proofs.Resolver.TableOrder
import PathJail.Proofs.Session.TableOrder

/-!
# Which aliases a list of entries makes

Configured aliases are registered one after the other, each in the table that those before it left.
Yet an entry is judged by itself: base and limits say whether it is an alias at all, at which path,
and of what. The table only says whether that path is taken already. So of all entries for a path
the first one stays, and what was in the table stays before them.

* `aliasOf?`          — the alias that an entry describes, by base and limits alone.
* `AliasTable.Takes`  — a table that takes in a list of aliases, the first for each free path.
* `registers`         — one entry: it is registered, or leaves no trace.
* `yields_installs`   — a list of entries, by induction on it.
* `first_alias_stays` — the request.
-/

namespace PathJail

open PathJail.Path (isAbsolute clean trimSlashes)

-- ---------------------------------------------------------------------------
-- What an entry describes
-- ---------------------------------------------------------------------------

namespace AliasConfig

/-- The virtual path that the destination of an entry stands for. -/
def virtual (configured : AliasConfig) : Text :=
  if isAbsolute configured.destination then configured.destination
  else '/' :: configured.destination

/-- The canonical form of the source of an entry. -/
def real (configured : AliasConfig) : Text := trimSlashes (clean configured.source)

variable {configured : AliasConfig}

/-- The virtual path of a configured alias is absolute, since it counts from the root. -/
theorem isAbsolute_virtual (configured : AliasConfig) :
    isAbsolute configured.virtual = true := by
  rw [virtual]
  split
  · assumption
  · rfl

theorem isAbsolute_real (hSource : isAbsolute configured.source = true) :
    isAbsolute configured.real = true :=
  (Path.trimmed_trimSlashes (Path.tidy_clean hSource)).tidy.absolute

end AliasConfig

/-- The alias that an entry describes under a base and limits: the place of its destination, and its
source. Source and destination are to have places, and not the same. -/
def aliasOf? (base : Option Text) (limits : Limits) (configured : AliasConfig) :
    Option AliasEntry :=
  let r : Resolver := { base, limits }
  if configured.source = [] ∨ configured.destination = [] ∨
      isAbsolute configured.source = false then
    none
  else
    match r.confine false configured.virtual, r.confine false configured.real with
    | .ok placed, .ok inside =>
      if trimSlashes placed = trimSlashes inside then none
      else some (trimSlashes placed, configured.real)
    | _, _ => none

namespace Path

/-- Taking off slashes leaves some text. -/
theorem trimSlashes_ne_nil {p : Text} (h : p ≠ []) : trimSlashes p ≠ [] := by
  rw [trimSlashes]
  split
  · intro hEmpty
    cases p with
    | nil => exact h rfl
    | cons c cs => cases hEmpty
  · assumption

end Path

namespace Resolver

variable {r : Resolver}

theorem confine_ne_nil {raised : Bool} {path placed : Text}
    (h : r.confine raised path = .ok placed) : placed ≠ [] := by
  have hRoot : r.baseRoot ≠ [] := by
    rw [baseRoot]
    split
    · rename_i hLast
      rintro hEmpty
      rw [hEmpty] at hLast
      cases hLast
    · exact List.append_ne_nil_of_right_ne_nil _ (List.cons_ne_nil _ _)
  rw [confine_eq] at h
  split at h
  · cases h
  split at h
  · cases h
  split at h
  · cases h
  rw [walked] at h
  cases hWalk : r.descend [] (r.withoutBase (clean (r.source path))) with
  | error e =>
    rw [hWalk] at h
    cases h
  | ok out =>
    rw [hWalk] at h
    rw [← Except.ok.inj h]
    show (if clean out = [] then r.baseRoot else clean out) ≠ []
    split
    · exact hRoot
    · assumption

/-- What an entry describes, by the places that the resolver itself gives to its two paths. -/
theorem aliasOf?_eq (r : Resolver) {configured : AliasConfig}
    (hNonempty : ¬ (configured.source = [] ∨ configured.destination = []))
    (hSource : isAbsolute configured.source = true) :
    aliasOf? r.base r.limits configured =
      match r.confine false configured.virtual, r.confine false configured.real with
      | .ok placed, .ok inside =>
        if trimSlashes placed = trimSlashes inside then none
        else some (trimSlashes placed, configured.real)
      | _, _ => none := by
  rw [← r.confine_bounds false (AliasConfig.isAbsolute_virtual configured),
    ← r.confine_bounds false (AliasConfig.isAbsolute_real hSource), aliasOf?,
    if_neg (by simpa [hSource] using hNonempty)]
  rfl

end Resolver

-- ---------------------------------------------------------------------------
-- Tables that take entries in
-- ---------------------------------------------------------------------------

/-- The table `next` is `table` with the first of the entries for each path that was free, and there
are so many of them. -/
structure AliasTable.Takes (table : AliasTable) (entries : List AliasEntry) (next : AliasTable)
    (installed : Nat) : Prop where
  get? : ∀ key, next.get? key = (table.get? key).or (entries.lookup key)
  size : next.size = table.size + installed

namespace AliasTable

variable {table next last : AliasTable} {key real : Text} {entries more : List AliasEntry}
variable {installed added : Nat}

theorem takes_nil (table : AliasTable) : table.Takes [] table 0 :=
  ⟨fun _ => Option.or_none.symm, rfl⟩

/-- An entry for a path that is taken leaves no trace. -/
theorem takes_of_mem_keys (h : key ∈ table.keys) (real : Text) :
    table.Takes [(key, real)] table 0 := by
  refine ⟨fun other => ?_, rfl⟩
  by_cases hOther : other = key
  · subst hOther
    obtain ⟨first, hFirst⟩ := Resolver.exists_get?_of_mem_keys h
    rw [hFirst, Option.some_or]
  · rw [List.lookup_cons, beq_eq_false_iff_ne.mpr hOther, List.lookup_nil, Option.or_none]

/-- A table takes an entry that is added to it. -/
theorem takes_of_add (h : table.add key real = .ok next) : table.Takes [(key, real)] next 1 := by
  have hEntries := Resolver.add_eq_ok h
  constructor
  · intro other
    rw [AliasTable.get?, hEntries, List.lookup_append]
    rfl
  · rw [AliasTable.size, hEntries, List.length_append]
    rfl

/-- Entries are taken in two portions. -/
theorem Takes.append (h : table.Takes entries next installed)
    (hMore : next.Takes more last added) :
    table.Takes (entries ++ more) last (installed + added) := by
  constructor
  · intro key
    rw [hMore.get?, h.get?, List.lookup_append, Option.or_assoc]
  · rw [hMore.size, h.size, Nat.add_assoc]

/-- Tables that give every path the same have the same entries. -/
theorem perm_of_get? (h : ∀ key, table.get? key = next.get? key) :
    table.entries.Perm next.entries := by
  refine (List.perm_ext_iff_of_nodup (.of_map _ table.keys_nodup)
    (.of_map _ next.keys_nodup)).mpr fun entry => ?_
  rw [← get?_eq_some_iff, ← get?_eq_some_iff, h]

/-- Without repeated keys, what is found does not depend on the order. -/
theorem lookup_of_perm (h : entries.Perm more) (hNodup : (entries.map Prod.fst).Nodup)
    (key : Text) : entries.lookup key = more.lookup key :=
  get?_of_perm (a := ⟨entries, hNodup⟩) (b := ⟨more, (h.map _).nodup_iff.mp hNodup⟩) h key

end AliasTable

-- ---------------------------------------------------------------------------
-- One entry
-- ---------------------------------------------------------------------------

variable {σ : Type} {host : Host σ} {state : σ}

/-- What becomes of the entry: it is refused and leaves no trace, since it describes no alias or one
at a path that is taken, or its alias is registered. -/
def Resolver.Registers (r : Resolver) (configured : AliasConfig) (host : Host σ) (state : σ) :
    Prop :=
  (∃ e, (r.addAlias configured.source configured.destination).Yields host state (.error e) [] ∧
    r.aliases.Takes (aliasOf? r.base r.limits configured).toList r.aliases 0) ∨
  ∃ table, (r.addAlias configured.source configured.destination).Yields host state
      (.ok (r.withAliases table)) [] ∧
    r.aliases.Takes (aliasOf? r.base r.limits configured).toList table 1

namespace Resolver

variable {r : Resolver} {configured : AliasConfig}

/-- A refusal registers nothing, where nothing is described. -/
theorem registers_of_refused {e : Error}
    (h : (r.addAlias configured.source configured.destination).Yields host state (.error e) [])
    (hNone : aliasOf? r.base r.limits configured = none) :
    r.Registers configured host state := by
  refine Or.inl ⟨e, h, ?_⟩
  rw [hNone]
  exact AliasTable.takes_nil _

/-- What is left of a registration behind its two lookups. -/
def register (r : Resolver) (key inside real : Text) : Attempt Resolver := do
  if key = inside then
    Attempt.note (.aliasToItself key real)
    throw .selfAlias
  let aliases ← Attempt.ofExcept (r.aliases.add key real)
  Attempt.note (.aliased key real)
  return { r with aliases := aliases }

/-- Two places that differ are registered without a call, if the table takes them. -/
theorem yields_register {key inside real : Text} (hApart : key ≠ inside)
    (host : Host σ) (state : σ) :
    (r.register key inside real).Yields host state
      ((r.aliases.add key real).map r.withAliases) [] := by
  rw [register, if_neg hApart]
  cases r.aliases.add key real with
  | error e => exact (Attempt.yields_throw _).mpr ⟨rfl, rfl⟩
  | ok table => exact Attempt.yields_note_bind.mpr ((Attempt.yields_pure _).mpr ⟨rfl, rfl⟩)

/-- An entry whose two paths have places is left to the table. -/
theorem registers_of_places (hDown : host.raised state = false) {placed inside : Text}
    (hNonempty : ¬ (configured.source = [] ∨ configured.destination = []))
    (hSource : isAbsolute configured.source = true)
    (hPlaced : r.confine false configured.virtual = .ok placed)
    (hInside : r.confine false configured.real = .ok inside) :
    r.Registers configured host state := by
  have hAlias := aliasOf?_eq r hNonempty hSource
  rw [hPlaced, hInside] at hAlias
  have hLooked {result : Except Error Resolver}
      (hRest : (r.register (trimSlashes placed) (trimSlashes inside) configured.real).Yields
        host state result []) :
      (r.addAlias configured.source configured.destination).Yields host state result [] := by
    rw [addAlias, if_neg hNonempty, hSource]
    exact yields_find_then (lookup_false_of_confine (hDown ▸ hPlaced))
      (yields_find_then (lookup_false_of_confine (hDown ▸ hInside)) hRest)
  by_cases hSame : trimSlashes placed = trimSlashes inside
  · refine registers_of_refused (e := .selfAlias) (hLooked ?_) (hAlias.trans (if_pos hSame))
    rw [register, if_pos hSame]
    exact Attempt.yields_note_bind.mpr ((Attempt.yields_throw _).mpr ⟨rfl, rfl⟩)
  have hStep := hLooked (yields_register hSame host state)
  have hOne : (aliasOf? r.base r.limits configured).toList =
      [(trimSlashes placed, configured.real)] :=
    congrArg Option.toList (hAlias.trans (if_neg hSame))
  have hTexts : ¬ (trimSlashes placed = [] ∨ configured.real = []) := by
    rintro (hEmpty | hEmpty)
    · exact Path.trimSlashes_ne_nil (confine_ne_nil hPlaced) hEmpty
    · have hAbsolute := AliasConfig.isAbsolute_real hSource
      rw [hEmpty] at hAbsolute
      cases hAbsolute
  rw [Registers, hOne]
  cases hTable : r.aliases.add (trimSlashes placed) configured.real with
  | error e =>
    rw [hTable] at hStep
    refine Or.inl ⟨e, hStep, AliasTable.takes_of_mem_keys ?_ _⟩
    by_contra hFree
    rw [AliasTable.add, if_neg hTexts, dif_neg hFree] at hTable
    cases hTable
  | ok table =>
    rw [hTable] at hStep
    exact Or.inr ⟨table, hStep, AliasTable.takes_of_add hTable⟩

/-- **One entry.** Nothing is looked up before both paths are there; then each of them is to have a
place. -/
theorem registers (r : Resolver) (configured : AliasConfig) (hDown : host.raised state = false) :
    r.Registers configured host state := by
  by_cases hEmpty : configured.source = [] ∨ configured.destination = []
  · refine registers_of_refused (e := .emptyAlias) ?_ (if_pos (by tauto))
    rw [addAlias, if_pos hEmpty]
    exact (Attempt.yields_throw _).mpr ⟨rfl, rfl⟩
  cases hSource : isAbsolute configured.source with
  | false =>
    refine registers_of_refused (e := .relativeSource) ?_ (if_pos (by tauto))
    rw [addAlias, if_neg hEmpty, hSource]
    exact (Attempt.yields_throw _).mpr ⟨rfl, rfl⟩
  | true =>
    have hAlias := aliasOf?_eq r hEmpty hSource
    cases hPlaced : r.confine false configured.virtual with
    | error e =>
      rw [hPlaced] at hAlias
      refine registers_of_refused (e := e) ?_ hAlias
      rw [addAlias, if_neg hEmpty, hSource]
      exact yields_find_error (lookup_of_confine_error (hDown ▸ hPlaced))
    | ok placed =>
      cases hInside : r.confine false configured.real with
      | error e =>
        rw [hPlaced, hInside] at hAlias
        refine registers_of_refused (e := e) ?_ hAlias
        rw [addAlias, if_neg hEmpty, hSource]
        refine yields_find_then (lookup_false_of_confine (hDown ▸ hPlaced)) ?_
        exact yields_find_error (lookup_of_confine_error (hDown ▸ hInside))
      | ok inside =>
        exact registers_of_places hDown hEmpty hSource hPlaced hInside

end Resolver

-- ---------------------------------------------------------------------------
-- A list of entries
-- ---------------------------------------------------------------------------

namespace Session

variable {s : Session}

/-- The aliases that entries describe in the session. -/
def described (s : Session) (aliases : List AliasConfig) : List AliasEntry :=
  aliases.filterMap (aliasOf? s.resolver.base s.resolver.limits)

/-- What the first configured alias describes comes first. -/
theorem described_cons (s : Session) (configured : AliasConfig) (aliases : List AliasConfig) :
    s.described (configured :: aliases) =
      (aliasOf? s.resolver.base s.resolver.limits configured).toList ++ s.described aliases := by
  rw [described, List.filterMap_cons]
  cases aliasOf? s.resolver.base s.resolver.limits configured <;> rfl

/-- **One configured alias** is counted once, as installed or as skipped. -/
theorem yields_installAlias (hDown : host.raised state = false) (s : Session)
    (report : AliasReport) (configured : AliasConfig) :
    ∃ table installed skipped, (s.installAlias report configured).Yields host state
        (⟨report.installed + installed, report.skipped + skipped⟩, s.withAliases table) [] ∧
      s.resolver.aliases.Takes
        (aliasOf? s.resolver.base s.resolver.limits configured).toList table installed ∧
      installed + skipped = 1 := by
  rcases s.resolver.registers configured hDown with ⟨e, hRefused, hTakes⟩ | ⟨table, hAdded, hTakes⟩
  · refine ⟨s.resolver.aliases, 0, 1, ?_, hTakes, rfl⟩
    rw [installAlias, ← List.append_nil []]
    -- an alias that is there already has an event of its own
    cases e with
    | alreadyExists => exact Dialogue.Yields.bind hRefused ⟨rfl, rfl⟩
    | _ => exact Dialogue.Yields.bind hRefused ⟨rfl, rfl⟩
  · refine ⟨table, 1, 0, ?_, hTakes, rfl⟩
    rw [installAlias, ← List.append_nil []]
    exact Dialogue.Yields.bind hAdded (Dialogue.yields_done.mpr ⟨rfl, rfl⟩)

/-- **A list of entries**, by induction on it. Base and limits stay, so each entry is judged as it
would have been at the start, and the table takes in what the list describes. -/
theorem yields_installs (hDown : host.raised state = false) (aliases : List AliasConfig)
    (report : AliasReport) (s : Session) :
    ∃ table installed skipped,
      (aliases.foldlM (fun (made : AliasReport × Session) configured =>
        made.2.installAlias made.1 configured) (report, s)).Yields host state
        (⟨report.installed + installed, report.skipped + skipped⟩, s.withAliases table) [] ∧
      s.resolver.aliases.Takes (s.described aliases) table installed ∧
      installed + skipped = aliases.length := by
  induction aliases generalizing report s with
  | nil => exact ⟨s.resolver.aliases, 0, 0, ⟨rfl, rfl⟩, AliasTable.takes_nil _, rfl⟩
  | cons configured aliases ih =>
    obtain ⟨table, installed, skipped, hFirst, hTakes, hOne⟩ :=
      yields_installAlias hDown s report configured
    obtain ⟨last, added, refused, hRest, hMore, hLength⟩ :=
      ih ⟨report.installed + installed, report.skipped + skipped⟩ (s.withAliases table)
    refine ⟨last, installed + added, skipped + refused, ?_, ?_, ?_⟩
    · rw [List.foldlM_cons, ← List.append_nil [], ← Nat.add_assoc, ← Nat.add_assoc]
      exact Dialogue.Yields.bind hFirst hRest
    · rw [described_cons]
      exact hTakes.append hMore
    · rw [List.length_cons]
      omega

/-- The request with a base. -/
theorem yields_installAliases (hDown : host.raised state = false)
    (hBase : s.resolver.hasBase = true) (aliases : List AliasConfig) :
    ∃ table report, (s.perform (.installAliases aliases)).Yields host state
        (.ok (.aliases report), s.withAliases table) [] ∧
      s.resolver.aliases.Takes (s.described aliases) table report.installed ∧
      report.installed + report.skipped = aliases.length := by
  obtain ⟨table, installed, skipped, hInstalls, hTakes, hLength⟩ :=
    yields_installs hDown aliases {} s
  refine ⟨table, ⟨installed, skipped⟩, ?_, hTakes, hLength⟩
  rw [Nat.zero_add, Nat.zero_add] at hInstalls
  rw [perform, installAliases, if_pos hBase, ← List.append_nil []]
  exact Dialogue.Yields.bind hInstalls (Dialogue.yields_done.mpr ⟨rfl, rfl⟩)

/-- Without a base all aliases are skipped. -/
theorem yields_installAliases_without_base (hBase : s.resolver.hasBase = false)
    (aliases : List AliasConfig) (host : Host σ) (state : σ) :
    (s.perform (.installAliases aliases)).Yields host state
      (.ok (.aliases { skipped := aliases.length }), s) [] := by
  rw [perform, installAliases, hBase, if_neg Bool.false_ne_true]
  split
  · exact ⟨rfl, rfl⟩
  · exact ⟨rfl, rfl⟩

/--
**The first alias for a path stays.** In any session, with the interrupt flag down, a list of
entries is to be registered. What an entry describes is given by base, limits and the entry.

* With a base the table then gives a path what it gave before, and else the real path of the first
  entry of the list that describes an alias at it; so there are no other paths in it. The report
  says by how many aliases the table has grown, and the entries that it counts as skipped are all
  the others.
* If the entries describe aliases at different paths, their order does not matter, neither to the
  report nor to what is in the table.
* Without a base all are skipped.

Nothing else of the session changes, and the host is asked for nothing.
-/
theorem first_alias_stays (s : Session) (host : Host σ) (state : σ)
    (hDown : host.raised state = false) (aliases : List AliasConfig) :
    (s.resolver.hasBase = true → ∃ (table : AliasTable) (report : AliasReport),
      (s.perform (.installAliases aliases)).Yields host state
        (.ok (.aliases report), s.withAliases table) [] ∧
      (∀ key, table.get? key =
        (s.resolver.aliases.get? key).or ((s.described aliases).lookup key)) ∧
      table.size = s.resolver.aliases.size + report.installed ∧
      report.installed + report.skipped = aliases.length ∧
      ∀ other : List AliasConfig, other.Perm aliases →
        ((s.described aliases).map Prod.fst).Nodup → ∃ later : AliasTable,
          (s.perform (.installAliases other)).Yields host state
            (.ok (.aliases report), s.withAliases later) [] ∧
          later.entries.Perm table.entries) ∧
    (s.resolver.hasBase = false →
      (s.perform (.installAliases aliases)).Yields host state
        (.ok (.aliases { skipped := aliases.length }), s) []) := by
  refine ⟨fun hBase => ?_, fun hBase => yields_installAliases_without_base hBase aliases host state⟩
  obtain ⟨table, report, hRun, hTakes, hLength⟩ := yields_installAliases hDown hBase aliases
  refine ⟨table, report, hRun, hTakes.get?, hTakes.size, hLength, fun other hPerm hNodup => ?_⟩
  obtain ⟨later, otherReport, hOther, hOtherTakes, hOtherLength⟩ :=
    yields_installAliases hDown hBase other
  -- both tables give every path the same, so they have the same entries, and as many
  have hSame : later.entries.Perm table.entries := by
    refine AliasTable.perm_of_get? fun key => ?_
    have hDescribed : (s.described aliases).Perm (s.described other) := hPerm.symm.filterMap _
    rw [hOtherTakes.get?, hTakes.get?, AliasTable.lookup_of_perm hDescribed hNodup]
  have hSize : later.size = table.size := hSame.length_eq
  have hInstalled : otherReport.installed = report.installed := by
    have hGrown := hTakes.size
    have hOtherGrown := hOtherTakes.size
    omega
  have hSkipped : otherReport.skipped = report.skipped := by
    have hEntries := hPerm.length_eq
    omega
  obtain rfl : otherReport = report := congrArg₂ AliasReport.mk hInstalled hSkipped
  exact ⟨later, hOther, hSame⟩

/-- What a configured alias comes to below the base of the store. -/
theorem aliasOf?_store {configured : AliasConfig} {placed inside real : Text}
    (hNonempty : ¬ (configured.source = [] ∨ configured.destination = []))
    (hSource : isAbsolute configured.source = true) (hReal : configured.real = real)
    (hPlaced : storeSession.resolver.placement configured.virtual = .ok placed)
    (hInside : storeSession.resolver.placement real = .ok inside) :
    aliasOf? (some "/store".toList) {} configured =
      if trimSlashes placed = trimSlashes inside then none
      else some (trimSlashes placed, real) := by
  obtain ⟨names, hNames⟩ := reachable_storeSession.resolver.baseNames
  have hAlias := Resolver.aliasOf?_eq storeSession.resolver hNonempty hSource
  rw [hReal, Resolver.confine_eq_placement hNames, Resolver.confine_eq_placement hNames, hPlaced,
    hInside] at hAlias
  exact hAlias

/-- Of two entries for the same path the first one is registered. One whose source is there anyway
and one without an absolute source are no aliases. -/
def pubConfigs : List AliasConfig :=
  [⟨"/store/x".toList, "/x".toList⟩, ⟨"/var//pub/".toList, "pub".toList⟩,
    ⟨"rel".toList, "/rel".toList⟩, ⟨"/etc".toList, "/a/../pub/".toList⟩]

/-- Two of the four describe an alias. -/
theorem described_pubConfigs : storeSession.described pubConfigs =
    [("/store/pub".toList, "/var/pub".toList), ("/store/pub".toList, "/etc".toList)] := by
  have hSelf : aliasOf? (some "/store".toList) {} ⟨"/store/x".toList, "/x".toList⟩ = none := by
    have hReal : AliasConfig.real ⟨"/store/x".toList, "/x".toList⟩ = "/store/x".toList := by
      rw [AliasConfig.real, Path.clean_eq_normal]
      rfl
    have hPlaced : storeSession.resolver.placement
        (AliasConfig.virtual ⟨"/store/x".toList, "/x".toList⟩) = .ok "/store/x".toList := by
      rw [Resolver.placement, Path.clean_eq_normal]
      rfl
    have hInside : storeSession.resolver.placement "/store/x".toList = .ok "/store/x".toList := by
      rw [Resolver.placement, Path.clean_eq_normal]
      rfl
    exact (aliasOf?_store (by decide) rfl hReal hPlaced hInside).trans (if_pos rfl)
  have hPub : aliasOf? (some "/store".toList) {} ⟨"/var//pub/".toList, "pub".toList⟩ =
      some ("/store/pub".toList, "/var/pub".toList) := by
    have hReal : AliasConfig.real ⟨"/var//pub/".toList, "pub".toList⟩ = "/var/pub".toList := by
      rw [AliasConfig.real, Path.clean_eq_normal]
      rfl
    have hPlaced : storeSession.resolver.placement
        (AliasConfig.virtual ⟨"/var//pub/".toList, "pub".toList⟩) = .ok "/store/pub".toList := by
      rw [Resolver.placement, Path.clean_eq_normal]
      rfl
    have hInside : storeSession.resolver.placement "/var/pub".toList = .ok "/store/var/pub".toList := by
      rw [Resolver.placement, Path.clean_eq_normal]
      rfl
    exact (aliasOf?_store (by decide) rfl hReal hPlaced hInside).trans (if_neg (by decide))
  have hRelative : aliasOf? (some "/store".toList) {} ⟨"rel".toList, "/rel".toList⟩ = none := by
    rw [aliasOf?, if_pos (by decide)]
  have hAgain : aliasOf? (some "/store".toList) {} ⟨"/etc".toList, "/a/../pub/".toList⟩ =
      some ("/store/pub".toList, "/etc".toList) := by
    have hReal : AliasConfig.real ⟨"/etc".toList, "/a/../pub/".toList⟩ = "/etc".toList := by
      rw [AliasConfig.real, Path.clean_eq_normal]
      rfl
    have hPlaced : storeSession.resolver.placement
        (AliasConfig.virtual ⟨"/etc".toList, "/a/../pub/".toList⟩) = .ok "/store/pub/".toList := by
      rw [Resolver.placement, Path.clean_eq_normal]
      rfl
    have hInside : storeSession.resolver.placement "/etc".toList = .ok "/store/etc".toList := by
      rw [Resolver.placement, Path.clean_eq_normal]
      rfl
    exact (aliasOf?_store (by decide) rfl hReal hPlaced hInside).trans (if_neg (by decide))
  show pubConfigs.filterMap (aliasOf? (some "/store".toList) {}) = _
  rw [pubConfigs, List.filterMap_cons_none hSelf, List.filterMap_cons_some hPub,
    List.filterMap_cons_none hRelative, List.filterMap_cons_some hAgain, List.filterMap_nil]

theorem first_alias_stays_pub :
    (({} : FixedHost).toHost).raised false = false ∧
      (storeSession.perform (.installAliases pubConfigs)).Yields (({} : FixedHost).toHost) false
        (.ok (.aliases ⟨1, 3⟩), pubSession) [] := by
  obtain ⟨hInstalled, -⟩ :=
    first_alias_stays storeSession (({} : FixedHost).toHost) false rfl pubConfigs
  obtain ⟨table, report, hRun, hGet, hSize, hLength, -⟩ := hInstalled rfl
  have hEntries : table.entries.Perm pubSession.resolver.aliases.entries := by
    refine AliasTable.perm_of_get? fun key => (hGet key).trans ?_
    rw [described_pubConfigs]
    -- the second entry is found behind the first, if at all
    have hNothing : storeSession.resolver.aliases.get? key = none := rfl
    have hPub : pubSession.resolver.aliases.get? key =
        [("/store/pub".toList, "/var/pub".toList)].lookup key := rfl
    rw [hNothing, Option.none_or, hPub, List.lookup_cons, List.lookup_cons, List.lookup_cons]
    by_cases hKey : (key == "/store/pub".toList) = true
    · simp only [hKey]
    · simp only [hKey]
  obtain rfl : table = pubSession.resolver.aliases := by
    obtain ⟨entries, hNodup⟩ := table
    obtain rfl := List.perm_singleton.mp hEntries
    rfl
  obtain ⟨installed, skipped⟩ := report
  obtain rfl : 1 = installed := hSize.trans (Nat.zero_add installed)
  obtain rfl : 3 = skipped := (Nat.add_left_cancel (hLength : 1 + skipped = 1 + 3)).symm
  exact ⟨rfl, hRun⟩

end Session

end PathJail
