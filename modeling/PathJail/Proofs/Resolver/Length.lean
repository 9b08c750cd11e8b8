import PathJail.Proofs.Resolver.Entries

/-!
# How long a real path is

Whatever a lookup assembles is checked against the limit before it is put together: the path that is
asked for, the base with the path behind it, the path through an alias. Each check is made on text
that is still to be made canonical, and so on something at least as long as what comes out. One
outcome is not put together at all. Where a path comes down to the base itself, the base is taken as
it is, with a slash behind it, and nobody looks how long that has become.

* `BaseUnderLimits`        — the base was installed under the limits that are in force.
* `placed_fits_or_root`    — where a path is placed: within the limit, or at the base itself.
* `lookup_fits_or_root`    — the same of lookups, with the one length that the base has then.
-/

namespace PathJail.Resolver

open PathJail.Path (Trimmed isAbsolute clean)

variable {r : Resolver} {base path real : Text} {raised follow : Bool} {resolved : Resolved}

-- ---------------------------------------------------------------------------
-- The base
-- ---------------------------------------------------------------------------

/-- The base was installed while the limits were those that are in force now. -/
def BaseUnderLimits (r : Resolver) : Prop :=
  ∀ base, r.base = some base → ∃ (before after : Resolver) (text : Text),
    before.limits = r.limits ∧ before.setBase text = .ok after ∧ after.base = some base

/-- The base is shorter than the limit. -/
theorem BaseUnderLimits.fits (h : r.BaseUnderLimits) (hBase : r.base = some base) :
    Text.byteLength base < r.limits.maxPathLength := by
  obtain ⟨before, after, text, hLimits, hSet, hAfter⟩ := h base hBase
  obtain ⟨-, hShort, rfl⟩ := setBase_eq_ok_iff.mp hSet
  obtain rfl := Option.some.inj hAfter
  rwa [hLimits] at hShort

/-- The base with the slash that makes it a directory. -/
theorem baseRoot_of_base (hBase : r.base = some base) (hTrimmed : Trimmed base)
    (hRoot : base ≠ ['/']) : r.baseRoot = base ++ ['/'] := by
  rw [baseRoot, baseText_eq hBase, if_neg (hTrimmed.no_slash.resolve_left hRoot)]

/-- The base with a slash behind it is one byte longer than the base, which is one byte too many for
a base that just fits. -/
theorem baseRoot_fits_or_full (h : r.Canonical) (hBase : r.BaseUnderLimits)
    (hLimit : 1 < r.limits.maxPathLength) :
    Text.byteLength r.baseRoot < r.limits.maxPathLength ∨
      ∃ base, r.base = some base ∧ Text.byteLength base + 1 = r.limits.maxPathLength ∧
        r.baseRoot = base ++ ['/'] := by
  cases hr : r.base with
  | none =>
    have hRoot : r.baseRoot = ['/'] := by simp [baseRoot, baseText, hr]
    rw [hRoot]
    exact Or.inl hLimit
  | some base =>
    have hFits := hBase.fits hr
    by_cases hRoot : base = ['/']
    · have hSlash : r.baseRoot = ['/'] := by simp [baseRoot, baseText, hr, hRoot]
      rw [hSlash]
      exact Or.inl hLimit
    · have hSlash := baseRoot_of_base hr (h.base base hr) hRoot
      have hLength : Text.byteLength r.baseRoot = Text.byteLength base + 1 := by
        rw [hSlash, Text.byteLength_append]
        rfl
      rcases Nat.lt_or_ge (Text.byteLength r.baseRoot) r.limits.maxPathLength with hShort | hLong
      · exact Or.inl hShort
      · exact Or.inr ⟨base, rfl, by omega, hSlash⟩

-- ---------------------------------------------------------------------------
-- Where a path is placed
-- ---------------------------------------------------------------------------

/-- A text does not get longer without its first character. -/
theorem byteLength_tail_le (t : Text) : Text.byteLength t.tail ≤ Text.byteLength t := by
  cases t with
  | nil => exact Nat.le_refl _
  | cons c t =>
    rw [List.tail_cons, Text.byteLength_cons]
    omega

/-- One case for each way in which a path is placed. -/
theorem placed_fits_or_root {q : Text} (h : r.placed q = .ok real) :
    Text.byteLength real < r.limits.maxPathLength ∨ real = r.baseRoot := by
  rw [placed] at h
  split at h
  · exact Or.inr (Except.ok.inj h).symm
  rename_i hSome
  split at h
  · -- below the base, of which the path does not need its own slash
    dsimp only at h
    generalize (if 1 < Text.byteLength r.baseText ∧ r.baseText ++ ['/'] <+: q then
      q.drop r.baseText.length else q) = t at h
    split at h
    · exact Or.inr (Except.ok.inj h).symm
    split at h
    · cases h
    rename_i hShort
    have hTail := byteLength_tail_le t
    rw [← Except.ok.inj h, Text.byteLength_append]
    left
    omega
  · -- below the root of the host
    split at h
    · cases h
    rename_i hShort
    have hSlash : Text.byteLength ('/' :: q) = 1 + Text.byteLength q := by
      rw [Text.byteLength_cons]
      rfl
    rw [← Except.ok.inj h]
    left
    split
    · rename_i hDot
      rw [hDot] at hShort
      exact Nat.lt_of_succ_lt (Nat.lt_of_not_le hShort)
    · omega

/-- A path that is looked up is not empty and within the limit, so there is room for a slash. -/
theorem one_lt_limit_of_confine (h : r.Canonical) (hPlaced : r.confine raised path = .ok real) :
    1 < r.limits.maxPathLength := by
  have hSource : r.source path ≠ [] := by
    intro hEmpty
    rw [source] at hEmpty
    split at hEmpty
    · have hCwd := h.cwd.tidy.absolute
      rw [hEmpty] at hCwd
      cases hCwd
    · rw [confine_eq, if_pos hEmpty] at hPlaced
      cases hPlaced
  have hPositive : 0 < (r.source path).length := List.length_pos_iff.mpr hSource
  have hBytes := Text.length_le_byteLength (r.source path)
  rw [confine_eq] at hPlaced
  split at hPlaced
  · cases hPlaced
  split at hPlaced
  · cases hPlaced
  omega

/-- **Placing a path** comes to one that fits the limit, or to the base with its slash. -/
theorem confine_fits_or_root (h : r.Canonical) (hPlaced : r.confine raised path = .ok real) :
    Text.byteLength real < r.limits.maxPathLength ∨ real = r.baseRoot := by
  obtain ⟨names, hNames⟩ := h.baseNames
  have hWalked := walked_of_confine hPlaced
  rw [walked_clean hNames] at hWalked
  exact placed_fits_or_root hWalked

/-- The virtual root is placed at the base. -/
theorem confine_slash (h : r.Canonical)
    (hShort : Text.byteLength ['/'] < r.limits.maxPathLength) :
    r.confine false ['/'] = .ok r.baseRoot := by
  obtain ⟨names, hNames⟩ := h.baseNames
  have hSource : r.source ['/'] = ['/'] := source_of_absolute rfl
  have hSeen : r.withoutBase ['/'] = ['/'] := by
    have hNone : r.withoutBase (Path.trimmedPath []) = Path.trimmedPath (namesBelow names []) :=
      withoutBase_trimmedPath hNames nofun
    have hBelow : namesBelow names [] = [] := by simp [namesBelow]
    rwa [hBelow] at hNone
  rw [confine_trimmed_iff hNames (hSource.symm ▸ Path.trimmed_root), hSource, hSeen]
  exact ⟨hShort, Or.inl rfl, (List.append_nil _).symm⟩

-- ---------------------------------------------------------------------------
-- Lookups
-- ---------------------------------------------------------------------------

/-- A path through an alias is checked as a whole; any other stays where it was placed. -/
theorem lookup_fits_or_placed (hLookup : r.lookup raised path follow = .ok resolved) :
    Text.byteLength resolved.real < r.limits.maxPathLength ∨
      r.confine raised path = .ok resolved.real ∧ resolved.virtual = none := by
  cases follow with
  | false =>
    have hConfine := confine_of_lookup_false hLookup
    rw [lookup_false, hConfine] at hLookup
    exact Or.inr ⟨hConfine, (congrArg Resolved.virtual (Except.ok.inj hLookup)).symm⟩
  | true =>
    cases hPlaced : r.confine raised path with
    | error e =>
      rw [lookup, hPlaced] at hLookup
      cases hLookup
    | ok placed =>
      rw [lookup_true_of_confine hPlaced] at hLookup
      cases hCrossing : r.crossing? placed with
      | none =>
        rw [hCrossing] at hLookup
        obtain rfl := Except.ok.inj hLookup
        exact Or.inr ⟨rfl, rfl⟩
      | some real =>
        simp only [hCrossing] at hLookup
        split at hLookup
        · cases hLookup
        · rename_i hShort
          obtain rfl := Except.ok.inj hLookup
          exact Or.inl (Nat.lt_of_not_le hShort)

/--
**The length of a real path.** In every resolver that comes about, if its base was installed under
the limits that are in force, what a lookup gives is shorter than the limit, with one exception:
the base is one byte shorter than the limit, and the path came down to the base itself, through no
alias. Then the real path is the base with a slash behind it, exactly as long as the limit. Every
such base shows it, with the path `/`.
-/
theorem lookup_fits_or_root (hReach : r.Reachable) (hBase : r.BaseUnderLimits) :
    (∀ raised path follow resolved, r.lookup raised path follow = .ok resolved →
      Text.byteLength resolved.real < r.limits.maxPathLength ∨
        ∃ base, r.base = some base ∧ Text.byteLength base + 1 = r.limits.maxPathLength ∧
          resolved = ⟨base ++ ['/'], none⟩) ∧
    ∀ base, r.base = some base → base ≠ ['/'] →
      Text.byteLength base + 1 = r.limits.maxPathLength →
        r.lookup false ['/'] false = .ok ⟨base ++ ['/'], none⟩ := by
  have hCanonical := hReach.canonical
  constructor
  · intro raised path follow resolved hLookup
    rcases lookup_fits_or_placed hLookup with hFits | ⟨hPlaced, hPlain⟩
    · exact Or.inl hFits
    rcases confine_fits_or_root hCanonical hPlaced with hFits | hRoot
    · exact Or.inl hFits
    have hLimit := one_lt_limit_of_confine hCanonical hPlaced
    rcases baseRoot_fits_or_full hCanonical hBase hLimit with hFits | ⟨base, hr, hFull, hSlash⟩
    · exact Or.inl (hRoot ▸ hFits)
    · refine Or.inr ⟨base, hr, hFull, ?_⟩
      obtain ⟨real, virtual⟩ := resolved
      obtain rfl : real = base ++ ['/'] := hRoot.trans hSlash
      obtain rfl : virtual = none := hPlain
      rfl
  · intro base hr hRoot hFull
    have hTrimmed := hCanonical.base base hr
    have hLong := (one_lt_byteLength_iff hTrimmed).mpr hRoot
    have hShort : Text.byteLength ['/'] < r.limits.maxPathLength := by
      have hOne : Text.byteLength ['/'] = 1 := rfl
      omega
    rw [lookup_false, confine_slash hCanonical hShort, baseRoot_of_base hr hTrimmed hRoot]
    rfl

/-- The base `/store` under a limit that it just meets. -/
def fullStore : Resolver where
  base := some "/store".toList
  limits := ⟨7, 32⟩

/-- The base of `fullStore` is one byte shorter than the limit. -/
theorem setBase_fullStore : setBase { limits := ⟨7, 32⟩ } "/store/".toList = .ok fullStore :=
  setBase_eq_ok_iff.mpr
    ⟨rfl, by rw [Path.clean_eq_normal]; decide, by rw [Path.clean_eq_normal]; rfl⟩

theorem reachable_fullStore : fullStore.Reachable :=
  .setBase "/store/".toList (.new ⟨7, 32⟩) setBase_fullStore

theorem baseUnderLimits_fullStore : fullStore.BaseUnderLimits :=
  fun _ hBase => ⟨_, _, _, rfl, setBase_fullStore, hBase⟩

/-- A relative path fits, and the root is as long as the limit. -/
theorem lookup_fits_or_root_full :
    fullStore.Reachable ∧ fullStore.BaseUnderLimits ∧
      fullStore.lookup false "a/../b".toList true = .ok ⟨"/b".toList, none⟩ ∧
      Text.byteLength "/b".toList < fullStore.limits.maxPathLength ∧
      fullStore.lookup false ['/'] false = .ok ⟨"/store/".toList, none⟩ := by
  obtain ⟨hFits, hRoot⟩ := lookup_fits_or_root reachable_fullStore baseUnderLimits_fullStore
  obtain ⟨names, hNames⟩ := reachable_fullStore.baseNames
  have hPlaced : fullStore.confine false "a/../b".toList = .ok "/b".toList := by
    rw [confine_eq_placement hNames, placement, Path.clean_eq_normal]
    rfl
  have hLookup : fullStore.lookup false "a/../b".toList true = .ok ⟨"/b".toList, none⟩ := by
    rw [lookup_true_of_confine hPlaced]
    rfl
  refine ⟨reachable_fullStore, baseUnderLimits_fullStore, hLookup, ?_, ?_⟩
  · refine (hFits _ _ _ _ hLookup).resolve_right ?_
    rintro ⟨base, hBase, -, hSame⟩
    obtain rfl := Option.some.inj hBase
    cases hSame
  · exact hRoot _ rfl (by decide) (by decide)

/-- The root of a base that just fits is not shorter than the limit. -/
theorem root_as_long_as_limit :
    fullStore.Reachable ∧ fullStore.BaseUnderLimits ∧
      fullStore.lookup false ['/'] false = .ok ⟨"/store/".toList, none⟩ ∧
      ¬ Text.byteLength "/store/".toList < fullStore.limits.maxPathLength := by
  have hPlaced := confine_slash reachable_fullStore.canonical (by decide)
  refine ⟨reachable_fullStore, baseUnderLimits_fullStore, ?_, by decide⟩
  rw [lookup_false, hPlaced]
  rfl

end PathJail.Resolver
