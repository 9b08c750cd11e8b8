import PathJail.Proofs.Resolver.Entries
import PathJail.Proofs.Session.Registering

/-!
# Aliases of themselves

An alias whose real path is the very path that it is found at leads nowhere. A registration refuses
an alias whose source, looked up as a virtual path, is placed where its destination is. For a source
that lies below the base, and for one that has nothing to do with it, this is the same as to compare
the two. The source that is the base itself is looked up one level deeper, since the base alone is
not taken off; so the base can be registered at the root of the view, as an alias of itself.

* `Grown`                   — the resolvers that registrations lead to.
* `names_of_confine`        — the names of the place of any absolute path.
* `key_eq_source_iff`       — when two places that differ make an alias of itself, by their names.
* `entry_of_addAlias`       — one registration.
* `self_alias_is_base`      — all of them: only the base is ever an alias of itself.
* `self_alias_registered`   — and it can be.
-/

namespace PathJail

open PathJail.Path (IsName Trimmed clean isAbsolute rooted trimSlashes trimmedPath)

namespace Resolver

variable {r r' next : Resolver} {base names : List Text}

-- ---------------------------------------------------------------------------
-- Registrations one after the other
-- ---------------------------------------------------------------------------

/-- The resolvers that registrations lead to, one by one or by the lists of a configuration. One
that is refused changes nothing. -/
inductive Grown (r : Resolver) : Resolver → Prop
  | refl : Grown r r
  | addAlias {r' next : Resolver} (source destination : Text) : Grown r r' →
      (r'.addAlias source destination).run.Ends (.ok next) → Grown r next
  | installAliases {s s' : Session} {report : AliasReport} (aliases : List AliasConfig) :
      Grown r s.resolver → (s.installAliases aliases).Ends (report, s') → Grown r s'.resolver

/-- What every registration keeps is kept. -/
theorem Grown.keeps {P : Resolver → Prop} (h : r.Grown r') (hStart : P r)
    (hAdd : ∀ r next : Resolver, P r → ∀ source destination,
      (r.addAlias source destination).run.Ends (.ok next) → P next) : P r' := by
  induction h with
  | refl => exact hStart
  | addAlias source destination _ hEnds ih => exact hAdd _ _ ih source destination hEnds
  | installAliases aliases _ hEnds ih =>
    have hInstalls := Session.every_installAliases (C := fun _ => True)
      (P := fun s => P s.resolver) ih aliases fun s source destination hs =>
        (Attempt.every_ends _).mono fun later hLater => hAdd _ _ hs source destination hLater
    exact hInstalls.ends hEnds

-- ---------------------------------------------------------------------------
-- The names of a place
-- ---------------------------------------------------------------------------

/-- What is left of a path when the base is taken off is the root for the root, and for the base
with a slash behind it. -/
theorem withoutBase_eq_root_iff (h : BaseNames r base) (hSome : base ≠ []) (q : Text) :
    r.withoutBase q = ['/'] ↔ q = ['/'] ∨ q = trimmedPath base ++ ['/'] := by
  have hText : r.baseText = trimmedPath base := by
    rw [h.text hSome, trimmedPath, if_neg hSome]
  rw [withoutBase_eq h, hText]
  split
  · rename_i hBelow
    obtain ⟨hBytes, tail, rfl⟩ := hBelow
    have hLong : trimmedPath base ++ ['/'] ++ tail ≠ ['/'] := by
      intro hRoot
      have hEmpty : trimmedPath base = [] := by
        have hLength := congrArg List.length hRoot
        simp only [List.length_append, List.length_singleton] at hLength
        exact List.length_eq_zero_iff.mp (by omega)
      rw [hEmpty] at hBytes
      exact absurd hBytes (by decide)
    rw [or_iff_right hLong, List.append_assoc, List.drop_left, List.append_right_inj]
  · rename_i hBelow
    refine ⟨Or.inl, fun hq => hq.resolve_right ?_⟩
    rintro rfl
    exact hBelow ⟨hText ▸ h.bytes.mpr hSome, List.prefix_refl _⟩

/-- A path made of names is the root, when there are none. -/
theorem eq_root_iff_of_names {left : List Text} (hLeft : ∀ n ∈ left, IsName n) {q : Text}
    (hForm : q = rooted left ++ ['/'] ∨ left ≠ [] ∧ q = rooted left) : q = ['/'] ↔ left = [] := by
  constructor
  · intro hRoot
    by_contra hSome
    have hLong := Path.one_lt_length_rooted hLeft hSome
    have hShort : (rooted left).length ≤ q.length := by
      rcases hForm with rfl | ⟨-, rfl⟩
      · rw [List.length_append]
        exact Nat.le_add_right _ _
      · exact Nat.le_refl _
    rw [hRoot] at hShort
    exact absurd (hLong.trans_le hShort) (Nat.lt_irrefl 1)
  · rintro rfl
    exact hForm.elim id fun hSome => absurd rfl hSome.1

/-- The names of the place of any absolute path are those of the base and what is left of the
path. -/
theorem names_of_confine (h : BaseNames r base) {raised : Bool} {path placed : Text}
    (hPath : isAbsolute path = true) (hPlaced : r.confine raised path = .ok placed) :
    ∃ left, (∀ n ∈ left, IsName n) ∧ trimSlashes placed = trimmedPath (base ++ left) ∧
      (r.withoutBase (clean path) = ['/'] ↔ left = []) := by
  have hSource : r.source path = path := source_of_absolute hPath
  have hPlace := eq_of_confine h (hSource.symm ▸ hPath) hPlaced
  rw [hSource] at hPlace
  have hTidy := tidy_withoutBase h (Path.tidy_clean hPath)
  obtain ⟨left, hLeft, hForm⟩ := Path.tidy_iff.mp hTidy
  refine ⟨left, hLeft, ?_, eq_root_iff_of_names hLeft hForm⟩
  have hAll : ∀ n ∈ base ++ left, IsName n := fun n hn =>
    (List.mem_append.mp hn).elim (h.isName n) (hLeft n)
  -- the slash of the base and the one in front of what is left are one
  have hBelow : placed = rooted base ++ r.withoutBase (clean path) := by
    obtain ⟨rest, hRest⟩ := hTidy.eq_slash_cons
    rw [hPlace, h.root, hRest, List.append_assoc]
    rfl
  rw [hBelow]
  rcases hForm with hForm | ⟨hSome, hForm⟩
  · rw [hForm, ← List.append_assoc, ← Path.rooted_append]
    exact Path.trimSlashes_rooted_slash hAll
  · rw [hForm, ← Path.rooted_append]
    exact Path.trimSlashes_rooted hAll (List.append_ne_nil_of_right_ne_nil base hSome)

/-- The place of the destination is the source, although the source is placed elsewhere, exactly if
the source is the base, and nothing is left of the destination. -/
theorem key_eq_source_iff (hBase : ∀ n ∈ base, IsName n) (hNames : ∀ n ∈ names, IsName n)
    {left : List Text} (hLeft : ∀ n ∈ left, IsName n)
    (hApart : trimmedPath (base ++ left) ≠ trimmedPath (base ++ namesBelow base names)) :
    trimmedPath names = trimmedPath (base ++ left) ↔ base ≠ [] ∧ names = base ∧ left = [] := by
  have hAll : ∀ n ∈ base ++ left, IsName n := fun n hn =>
    (List.mem_append.mp hn).elim (hBase n) (hLeft n)
  constructor
  · intro hSame
    obtain rfl : names = base ++ left := Path.trimmedPath_injective hNames hAll hSame
    -- a source that lies below the base is placed where it is
    have hNone : left = [] := by
      by_contra hSome
      refine hApart ?_
      rw [namesBelow, if_pos ⟨List.prefix_append base left, by simpa using hSome⟩, List.drop_left]
    subst hNone
    rw [List.append_nil] at hApart ⊢
    refine ⟨?_, rfl, rfl⟩
    rintro rfl
    exact hApart rfl
  · rintro ⟨-, rfl, rfl⟩
    rw [List.append_nil]

/-- A path is the base, and the base is not the root, by their names. -/
theorem base_eq_iff_names (h : BaseNames r base) (hNames : ∀ n ∈ names, IsName n) :
    r.base = some (trimmedPath names) ∧ trimmedPath names ≠ ['/'] ↔ base ≠ [] ∧ names = base := by
  constructor
  · rintro ⟨hBase, hRoot⟩
    have hTrimmed : Trimmed (trimmedPath names) := Path.trimmed_iff.mpr ⟨names, hNames, rfl⟩
    have hText := baseText_eq hBase
    have hSome : base ≠ [] := by
      rw [← h.bytes, hText, one_lt_byteLength_iff hTrimmed]
      exact hRoot
    refine ⟨hSome, Path.trimmedPath_injective hNames h.isName ?_⟩
    rw [← hText, h.text hSome, trimmedPath, if_neg hSome]
  · rintro ⟨hSome, rfl⟩
    have hText := h.text hSome
    have hPath : trimmedPath names = rooted names := by rw [trimmedPath, if_neg hSome]
    have hLong := Path.one_lt_length_rooted h.isName hSome
    rw [hPath, ← hText]
    rw [← hText] at hLong
    constructor
    · cases hBase : r.base with
      | none =>
        rw [baseText, hBase] at hLong
        exact absurd hLong (by decide)
      | some b => rw [baseText_eq hBase]
    · intro hRoot
      rw [hRoot] at hLong
      exact absurd hLong (by decide)

-- ---------------------------------------------------------------------------
-- One registration
-- ---------------------------------------------------------------------------

/-- A registration that succeeds adds one alias, of its source. The two places that were compared
differ. -/
theorem every_addAlias_entry {C : Call → Prop} (r : Resolver) (configured : AliasConfig) :
    (r.addAlias configured.source configured.destination).Every C fun next =>
      isAbsolute configured.source = true ∧ ∃ raised raisedInside placed inside,
        r.confine raised configured.virtual = .ok placed ∧
        r.confine raisedInside configured.real = .ok inside ∧
        trimSlashes placed ≠ trimSlashes inside ∧
        next.aliases.entries = r.aliases.entries ++ [(trimSlashes placed, configured.real)] := by
  unfold addAlias
  by_cases hEmpty : configured.source = [] ∨ configured.destination = []
  · simp [hEmpty]
  cases hAbsolute : isAbsolute configured.source with
  | false => simp [hEmpty]
  | true =>
    simp only [hEmpty, Bool.not_true, Bool.false_eq_true, if_false, Attempt.every_bind, every_find]
    intro raised placed hPlaced raisedInside inside hInside
    split
    · simp
    · rename_i hApart
      simp only [Attempt.every_bind, Attempt.every_ofExcept, Attempt.every_note,
        Attempt.every_pure]
      intro table hTable
      exact ⟨trivial, raised, raisedInside, placed.real, inside.real,
        confine_of_lookup_false hPlaced, confine_of_lookup_false hInside, hApart,
        add_eq_ok hTable⟩

/-- The alias that a registration adds is one of itself, exactly if its source is the base, and not
the root of the host, and its destination the root of the view. -/
theorem entry_of_addAlias (h : r.Canonical) (configured : AliasConfig)
    (hEnds : (r.addAlias configured.source configured.destination).run.Ends (.ok next)) :
    ∃ key, next.aliases.entries = r.aliases.entries ++ [(key, configured.real)] ∧
      (configured.real = key ↔ (r.base = some configured.real ∧ configured.real ≠ ['/']) ∧
        (clean configured.virtual = ['/'] ∨
          clean configured.virtual = configured.real ++ ['/'])) := by
  obtain ⟨base, hBase⟩ := h.baseNames
  obtain ⟨hAbsolute, raised, raisedInside, placed, inside, hPlaced, hInside, hApart, hEntries⟩ :=
    (every_addAlias_entry (C := fun _ => True) r configured).ends hEnds _ rfl
  refine ⟨trimSlashes placed, hEntries, ?_⟩
  have hReal : Trimmed configured.real := Path.trimmed_trimSlashes (Path.tidy_clean hAbsolute)
  obtain ⟨names, hNames, hForm⟩ := Path.trimmed_iff.mp hReal
  obtain ⟨left, hLeft, hKey, hRoot⟩ :=
    names_of_confine hBase configured.isAbsolute_virtual hPlaced
  rw [hForm] at hInside ⊢
  have hSource : r.source (trimmedPath names) = trimmedPath names :=
    source_of_absolute (hForm ▸ hReal.tidy.absolute)
  rw [hKey, trimSlashes_of_confine hBase hNames hSource hInside] at hApart
  rw [hKey, key_eq_source_iff hBase.isName hNames hLeft hApart, base_eq_iff_names hBase hNames,
    and_assoc]
  refine and_congr_right fun hSome => and_congr_right fun hSame => ?_
  rw [← hRoot, withoutBase_eq_root_iff hBase hSome, hSame]

-- ---------------------------------------------------------------------------
-- All registrations
-- ---------------------------------------------------------------------------

/-- The only alias of itself is one of the base. -/
def SelfAliasIsBase (r : Resolver) : Prop :=
  ∀ entry ∈ r.aliases.entries, entry.2 = entry.1 → r.base = some entry.1 ∧ entry.1 ≠ ['/']

/-- One registration leaves paths canonical and the base as it is. -/
theorem canonical_of_addAlias (h : r.Canonical) (configured : AliasConfig)
    (hEnds : (r.addAlias configured.source configured.destination).run.Ends (.ok next)) :
    next.Canonical ∧ next.base = r.base :=
  ⟨(h.addAlias (C := fun _ => True) _ _).ends hEnds _ rfl,
    (Session.every_addAlias_base (C := fun _ => True) r _ _).ends hEnds _ rfl⟩

/-- **One registration.** An alias of itself that it adds is one of the base. -/
theorem SelfAliasIsBase.addAlias (hSelf : r.SelfAliasIsBase) (h : r.Canonical)
    (configured : AliasConfig)
    (hEnds : (r.addAlias configured.source configured.destination).run.Ends (.ok next)) :
    next.SelfAliasIsBase := by
  obtain ⟨key, hEntries, hIff⟩ := entry_of_addAlias h configured hEnds
  obtain ⟨-, hBase⟩ := canonical_of_addAlias h configured hEnds
  intro entry hEntry hSame
  rw [hBase]
  rw [hEntries, List.mem_append, List.mem_singleton] at hEntry
  rcases hEntry with hOld | rfl
  · exact hSelf entry hOld hSame
  · rw [← hSame]
    exact (hIff.mp hSame).1

/--
**Only the base is ever an alias of itself.** A resolver that came about in any way, with any base
and without an alias of itself, and any registrations after that, one by one or in lists, in any
spelling:

* Its base stays, and an alias of itself is one of that base, which is not the root of the host.
* A registration that succeeds adds one alias, of the canonical form of its source. That alias is
  one of itself if and only if the source is the base, and the canonical form of the destination is
  the root, or the base with a slash behind it.
-/
theorem self_alias_is_base (hReach : r.Reachable)
    (hNone : ∀ entry ∈ r.aliases.entries, entry.2 ≠ entry.1) (hGrown : r.Grown r') :
    r'.base = r.base ∧ r'.SelfAliasIsBase ∧
      ∀ (configured : AliasConfig) (next : Resolver),
        (r'.addAlias configured.source configured.destination).run.Ends (.ok next) →
        ∃ key, next.aliases.entries = r'.aliases.entries ++ [(key, configured.real)] ∧
          (configured.real = key ↔ (r.base = some configured.real ∧ configured.real ≠ ['/']) ∧
            (clean configured.virtual = ['/'] ∨
              clean configured.virtual = configured.real ++ ['/'])) := by
  obtain ⟨hCanonical, hBase, hSelf⟩ :
      r'.Canonical ∧ r'.base = r.base ∧ r'.SelfAliasIsBase := by
    refine hGrown.keeps (P := fun r' => r'.Canonical ∧ r'.base = r.base ∧ r'.SelfAliasIsBase)
      ⟨hReach.canonical, rfl, fun entry hEntry hSame => absurd hSame (hNone entry hEntry)⟩ ?_
    rintro r' next ⟨hCanonical, hBase, hSelf⟩ source destination hEnds
    obtain ⟨hNext, hSameBase⟩ := canonical_of_addAlias hCanonical ⟨source, destination⟩ hEnds
    exact ⟨hNext, hSameBase.trans hBase,
      hSelf.addAlias hCanonical ⟨source, destination⟩ hEnds⟩
  refine ⟨hBase, hSelf, fun configured next hEnds => ?_⟩
  rw [← hBase]
  exact entry_of_addAlias hCanonical configured hEnds

/-- The base of the store, registered at the root of the view. -/
def selfStore : Resolver where
  base := some "/store".toList
  aliases := { entries := [("/store".toList, "/store".toList)] }

/-- One registration leads there. -/
theorem grown_selfStore : Grown { base := some "/store".toList } selfStore := by
  have hReal : trimSlashes (clean "/store".toList) = "/store".toList := by
    rw [Path.clean_eq_normal]
    rfl
  have hKey : lookup { base := some "/store".toList } false ['/'] false =
      .ok ⟨"/store/".toList, none⟩ := by
    rw [lookup_false_eq_placement reachable_store, placement, Path.clean_eq_normal]
    rfl
  have hInside : lookup { base := some "/store".toList } false
      (trimSlashes (clean "/store".toList)) false = .ok ⟨"/store/store".toList, none⟩ := by
    rw [hReal, lookup_false_eq_placement reachable_store, placement, Path.clean_eq_normal]
    rfl
  refine .addAlias "/store".toList ['/'] .refl ?_
  refine ends_addAlias rfl rfl hKey hInside ?_ ?_
  · decide
  · rw [hReal]
    rfl

/-- Its one alias of itself is the base. -/
theorem self_alias_is_base_store :
    Reachable { base := some "/store".toList } ∧
      Grown { base := some "/store".toList } selfStore ∧ selfStore.SelfAliasIsBase := by
  obtain ⟨-, hSelf, -⟩ := self_alias_is_base reachable_store (List.forall_mem_nil _) grown_selfStore
  exact ⟨reachable_store, grown_selfStore, hSelf⟩

/-- From a store without aliases, one registration leads to an alias of itself. -/
theorem self_alias_registered :
    ¬ ∀ r r' : Resolver, r.Reachable → r.aliases.entries = [] → r.Grown r' →
      ∀ entry ∈ r'.aliases.entries, entry.2 ≠ entry.1 := by
  intro hClaim
  exact hClaim _ selfStore reachable_store rfl grown_selfStore
    ("/store".toList, "/store".toList) List.mem_cons_self rfl

end Resolver

end PathJail
