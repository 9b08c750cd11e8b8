import Mathlib.Data.List.Nodup
import PathJail.Proofs.Dialogue.Alike
import PathJail.Proofs.Resolver.Crossing
import PathJail.Resolver.Aliasing

/-!
# Lookups and the order of the aliases

A lookup asks the table of aliases for single paths, each of which it has once, so that the order of
the table is of no matter. Where a real path is sought, the whole table is walked, and an entry
stays until a longer one comes. Of two different real paths at or above the same path one is longer,
so that the walk comes to the same entry whatever way it takes.

* `Resolver.withAliases`     — the resolver with another table.
* `lookup_withAliases`, `find_withAliases` — lookups do not see the order.
* `nearest?_of_perm`         — nor does the walk, if no two aliases have the same real path.
* `alike_addAlias`           — registering an alias goes alike in either order.
-/

namespace PathJail

-- ---------------------------------------------------------------------------
-- Tables
-- ---------------------------------------------------------------------------

namespace AliasTable

variable {a b : AliasTable}

/-- What an alias leads to is told by its entry, since no key is there twice. -/
theorem get?_eq_some_iff {table : AliasTable} {key real : Text} :
    table.get? key = some real ↔ (key, real) ∈ table.entries := by
  refine ⟨Resolver.mem_of_get?, fun hEntry => ?_⟩
  have hKey : key ∈ table.keys := List.mem_map_of_mem hEntry
  cases hGet : table.get? key with
  | none => exact absurd hKey (get?_eq_none_iff.mp hGet)
  | some other =>
    have hOther := Resolver.mem_of_get? hGet
    have hSame := List.inj_on_of_nodup_map table.keys_nodup hEntry hOther rfl
    exact congrArg some (Prod.mk.inj hSame).2.symm

/-- Where an alias leads to does not depend on the order. -/
theorem get?_of_perm (h : a.entries.Perm b.entries) (key : Text) : a.get? key = b.get? key :=
  Option.ext fun real => by rw [get?_eq_some_iff, get?_eq_some_iff, h.mem_iff]

theorem contains_of_perm (h : a.entries.Perm b.entries) (key : Text) :
    a.contains key = b.contains key := by
  rw [contains, contains, get?_of_perm h]

theorem isEmpty_of_perm (h : a.entries.Perm b.entries) : a.isEmpty = b.isEmpty := by
  rw [isEmpty, isEmpty, Bool.eq_iff_iff, List.isEmpty_iff, List.isEmpty_iff]
  exact ⟨fun hEmpty => (hEmpty ▸ h).nil_eq.symm, fun hEmpty => (hEmpty ▸ h).eq_nil⟩

/-- An alias is registered in both tables, or refused by both. -/
theorem add_of_perm (h : a.entries.Perm b.entries) (key real : Text) :
    Agree (fun next other => next.entries.Perm other.entries) (a.add key real)
      (b.add key real) := by
  have hKeys : key ∈ a.keys ↔ key ∈ b.keys := (h.map Prod.fst).mem_iff
  by_cases hText : key = [] ∨ real = []
  · rw [add, add, if_pos hText, if_pos hText]
    exact .error _
  by_cases hKey : key ∈ a.keys
  · rw [add, add, if_neg hText, if_neg hText, dif_pos hKey, dif_pos (hKeys.mp hKey)]
    exact .error _
  · rw [add, add, if_neg hText, if_neg hText, dif_neg hKey, dif_neg (hKeys.not.mp hKey)]
    exact .ok (h.append_right _)

end AliasTable

-- ---------------------------------------------------------------------------
-- Lookups
-- ---------------------------------------------------------------------------

namespace Resolver

variable {r : Resolver} {table : AliasTable}

/-- The resolver with nothing but base and limits. -/
def bounds (r : Resolver) : Resolver := { base := r.base, limits := r.limits }

/-- The walk needs base and limits only. -/
theorem descend_bounds (r : Resolver) (here path : Text) :
    r.bounds.descend here path = r.descend here path := by
  fun_induction descend r here path with
  | case1 here ih =>
    rw [descend]
    exact ih
  | case2 here rest ih =>
    rw [descend]
    exact ih
  | case3 here rest ih =>
    rw [descend]
    exact ih
  | case4 here => rw [descend]
  | case5 here path hUp hUpSlash hSlash hNonempty later hContains =>
    rw [descend.eq_5 _ here path hUp hUpSlash hSlash hNonempty, if_pos hContains]
    rfl
  | case6 here path hUp hUpSlash hSlash hNonempty later hContains =>
    rw [descend.eq_5 _ here path hUp hUpSlash hSlash hNonempty, if_neg hContains]
    rfl

/-- Base and limits say where an absolute path is placed. -/
theorem confine_bounds (r : Resolver) (raised : Bool) {path : Text}
    (hPath : Path.isAbsolute path = true) :
    r.bounds.confine raised path = r.confine raised path := by
  rw [confine_eq, confine_eq, source_of_absolute hPath, source_of_absolute hPath, walked, walked,
    descend_bounds]
  rfl

/-- The resolver with another table of aliases. -/
def withAliases (r : Resolver) (table : AliasTable) : Resolver := { r with aliases := table }

/-- Aliases do not matter to the walk. -/
theorem descend_withAliases (r : Resolver) (table : AliasTable) (here path : Text) :
    (r.withAliases table).descend here path = r.descend here path := by
  rw [← descend_bounds, ← descend_bounds r]
  rfl

/-- Where a path is placed, aliases have no part in it. -/
theorem confine_withAliases (r : Resolver) (table : AliasTable) :
    (r.withAliases table).confine = r.confine := by
  funext raised path
  rw [confine, confine]
  simp only [descend_withAliases]
  rfl

theorem crossing?_withAliases (h : table.entries.Perm r.aliases.entries) :
    (r.withAliases table).crossing? = r.crossing? := by
  funext path
  simp only [crossing?, withAliases, AliasTable.get?_of_perm h]

theorem tried_withAliases (h : table.entries.Perm r.aliases.entries) :
    (r.withAliases table).tried = r.tried := by
  funext path
  simp only [tried, withAliases, AliasTable.contains_of_perm h]

/-- **Lookups do not see the order of the aliases.** -/
theorem lookup_withAliases (h : table.entries.Perm r.aliases.entries) :
    (r.withAliases table).lookup = r.lookup := by
  funext raised path follow
  rw [lookup, lookup, confine_withAliases, crossing?_withAliases h]
  rfl

theorem lookupEvents_withAliases (h : table.entries.Perm r.aliases.entries) :
    (r.withAliases table).lookupEvents = r.lookupEvents := by
  have hEmpty : (r.withAliases table).aliases.isEmpty = r.aliases.isEmpty :=
    AliasTable.isEmpty_of_perm h
  funext raised path follow
  rw [lookupEvents, lookupEvents, confine_withAliases, crossing?_withAliases h,
    tried_withAliases h, hEmpty]
  rfl

/-- **A lookup** is the same in any order of the aliases. -/
theorem find_withAliases (h : table.entries.Perm r.aliases.entries) :
    (r.withAliases table).find = r.find := by
  funext path follow
  rw [find, find, lookup_withAliases h, lookupEvents_withAliases h]

-- Neither a base nor a working directory is looked up.

theorem setBase_withAliases (r : Resolver) (table : AliasTable) (base : Text) :
    (r.withAliases table).setBase base = (withAliases · table) <$> r.setBase base := by
  unfold setBase
  dsimp only
  split
  · rfl
  split
  · rfl
  show (r.limits.check _ >>= _) = _ <$> (r.limits.check _ >>= _)
  cases r.limits.check (Text.byteLength (Path.trimSlashes (Path.clean base))) <;> rfl

theorem setCwd_withAliases (r : Resolver) (table : AliasTable) (cwd : Text) :
    (r.withAliases table).setCwd cwd = (withAliases · table) <$> r.setCwd cwd := by
  unfold setCwd
  dsimp only
  split
  · rfl
  show (r.limits.check _ >>= _) = _ <$> (r.limits.check _ >>= _)
  cases r.limits.check (Text.byteLength (Path.trimSlash (Path.clean cwd))) <;> rfl

/-- A base is installed and reported beside any aliases. -/
theorem installBase_withAliases (r : Resolver) (table : AliasTable) (base : Text) :
    (r.withAliases table).installBase base = (withAliases · table) <$> r.installBase base := by
  rw [installBase, installBase, setBase_withAliases]
  cases r.setBase base <;> rfl

-- ---------------------------------------------------------------------------
-- From real paths to aliases
-- ---------------------------------------------------------------------------

open virtualPath? (behind? nearest?)

/-- A path that has something behind a source begins with it. -/
theorem prefix_of_behind? {real source rest : Text} (h : behind? real source = some rest) :
    source <+: real := by
  rw [behind?] at h
  split at h
  · rename_i hRoot
    split at h
    · rename_i hAbsolute
      obtain ⟨tail, rfl⟩ := Path.isAbsolute_iff.mp hAbsolute
      exact hRoot ▸ ⟨tail, rfl⟩
    · cases h
  · rw [Path.below?] at h
    split at h
    · rename_i hAfter
      exact ⟨_, (Text.after?_eq_some_iff.mp hAfter).symm⟩
    · rename_i hAfter
      exact ⟨_, (Text.after?_eq_some_iff.mp hAfter).symm⟩
    · cases h

/-- A beginning that is as long as the whole is the whole. -/
theorem eq_of_prefix_of_byteLength {a b : Text} (h : a <+: b)
    (hLength : Text.byteLength a = Text.byteLength b) : a = b := by
  obtain ⟨rest, rfl⟩ := h
  rw [Text.byteLength_append] at hLength
  have hRest := Text.length_le_byteLength rest
  have hNil : rest = [] := List.length_eq_zero_iff.mp (by omega)
  rw [hNil, List.append_nil]

/-- Of two real paths that the same path lies at or below, one is longer. -/
theorem source_eq_of_behind? {real a b restA restB : Text} (ha : behind? real a = some restA)
    (hb : behind? real b = some restB) (hLength : Text.byteLength a = Text.byteLength b) :
    a = b := by
  rcases List.prefix_or_prefix_of_prefix (prefix_of_behind? ha) (prefix_of_behind? hb) with h | h
  · exact eq_of_prefix_of_byteLength h hLength
  · exact (eq_of_prefix_of_byteLength h hLength.symm).symm

/-- **The walk comes to the same entry in every order.** Two entries can change places: only of two
that are equally long would the first one win. -/
theorem nearest?_of_perm {entries others : List AliasEntry} (h : entries.Perm others)
    (hDistinct : (entries.map Prod.snd).Nodup) (real : Text) :
    nearest? real entries = nearest? real others := by
  refine h.foldl_eq' (fun first hFirst second hSecond best => ?_) none
  by_cases hSame : first = second
  · rw [hSame]
  have hLength {restA restB : Text} (ha : behind? real first.2 = some restA)
      (hb : behind? real second.2 = some restB) :
      Text.byteLength first.2 ≠ Text.byteLength second.2 := fun hEqual =>
    hSame (List.inj_on_of_nodup_map hDistinct hFirst hSecond (source_eq_of_behind? ha hb hEqual))
  cases hA : behind? real first.2 with
  | none => rfl
  | some restA =>
    cases hB : behind? real second.2 with
    | none => rfl
    | some restB =>
      have hNe := hLength hA hB
      -- the longer of the two replaces the other one, whichever was there first
      cases best with
      | none => grind
      | some found => grind

/-- The way back from a real path is the same in any order, where no two aliases have one source. -/
theorem virtualPath?_withAliases (h : table.entries.Perm r.aliases.entries)
    (hDistinct : (r.aliases.entries.map Prod.snd).Nodup) :
    (r.withAliases table).virtualPath? = r.virtualPath? := by
  funext real
  have hNearest := nearest?_of_perm h.symm hDistinct real
  rw [virtualPath?, virtualPath?, hNearest]
  rfl

-- ---------------------------------------------------------------------------
-- Registering
-- ---------------------------------------------------------------------------

/-- Registering an alias goes alike, and leaves the same aliases. -/
theorem alike_addAlias (h : table.entries.Perm r.aliases.entries) (source destination : Text) :
    (r.addAlias source destination).Alike
      (fun next other => ∃ later : AliasTable,
        later.entries.Perm next.aliases.entries ∧ other = next.withAliases later)
      ((r.withAliases table).addAlias source destination) := by
  have hFind := find_withAliases h
  unfold addAlias
  simp only [hFind]
  split
  · exact Attempt.alike_throw _
  split
  · exact Attempt.alike_throw _
  refine Attempt.alike_bind _ fun placed => Attempt.alike_bind _ fun inside => ?_
  split
  · exact Attempt.alike_bind _ fun _ => Attempt.alike_throw _
  have hAdd := AliasTable.add_of_perm h.symm
    (Path.trimSlashes placed.real) (Path.trimSlashes (Path.clean source))
  refine Attempt.Alike.bind (.done hAdd) fun next other hNext => ?_
  refine Attempt.alike_bind _ fun _ => Attempt.alike_pure ⟨other, hNext.symm, rfl⟩

end Resolver

end PathJail
