import PathJail.Error

/-!
# The alias table

An alias makes a virtual path stand for a real one somewhere else on the host. The table maps a
virtual path, written under the base as the resolver writes it, to its real path. Entries are only
ever added, the first one for a path stays, and the table is dropped as a whole.

The entries are kept in the order of their registration, one for each virtual path.

* `AliasTable.add`  — registers an alias, or says why it cannot.
* `AliasTable.get?` — the real path of a virtual path that is itself an alias.
-/

namespace PathJail

/-- A virtual path and the real path that it stands for. -/
abbrev AliasEntry := Text × Text

structure AliasTable where
  entries : List AliasEntry := []
  keys_nodup : (entries.map Prod.fst).Nodup := by simp
  deriving Repr

namespace AliasTable

/-- The table without aliases. -/
def empty : AliasTable := {}

/-! ## Looking up -/

/-- The virtual paths that are aliases. -/
def keys (table : AliasTable) : List Text := table.entries.map Prod.fst

/-- The real path that a virtual path stands for. -/
def get? (table : AliasTable) (key : Text) : Option Text := table.entries.lookup key

/-- Whether a virtual path is an alias. -/
def contains (table : AliasTable) (key : Text) : Bool := (table.get? key).isSome

/-- The real path that a virtual path stands for, or the error that there is none. -/
def find (table : AliasTable) (key : Text) : Except Error Text :=
  match table.get? key with
  | some real => .ok real
  | none => .error .notFound

/-- The number of aliases. -/
def size (table : AliasTable) : Nat := table.entries.length

/-- Whether there is no alias. -/
def isEmpty (table : AliasTable) : Bool := table.entries.isEmpty

/-- The entries by ascending virtual path. -/
def toSortedList (table : AliasTable) : List AliasEntry :=
  table.entries.mergeSort fun a b => !decide (b.1 < a.1)

/-- Visits the entries one after the other. With each entry `visit` takes the state reached so far
to the next one, and says whether the walk goes on. -/
def walk {σ : Type} (visit : σ → AliasEntry → σ × Bool) (start : σ) (table : AliasTable) : σ :=
  go start table.entries
where
  go (state : σ) : List AliasEntry → σ
    | [] => state
    | entry :: rest =>
      match visit state entry with
      | (state, true) => go state rest
      | (state, false) => state

theorem get?_eq_none_iff {table : AliasTable} {key : Text} :
    table.get? key = none ↔ key ∉ table.keys := by
  simp only [get?, keys, List.lookup_eq_none_iff, List.mem_map, not_exists, not_and]
  constructor
  · intro h entry hentry hkey
    have := h entry hentry
    simp [hkey] at this
  · intro h entry hentry
    have := h entry hentry
    simpa [beq_eq_false_iff_ne] using fun heq => this heq.symm

/-! ## Adding -/

/-- Registers `key` as an alias of `real`. Neither may be empty, and an alias that is there already
is kept as it is. -/
def add (table : AliasTable) (key real : Text) : Except Error AliasTable :=
  if key = [] ∨ real = [] then .error .emptyAlias
  else if h : key ∈ table.keys then .error .alreadyExists
  else .ok {
    entries := table.entries ++ [(key, real)]
    keys_nodup := by
      rw [List.map_append, List.nodup_append]
      refine ⟨table.keys_nodup, by simp, ?_⟩
      intro a ha b hb hab
      simp only [List.map_cons, List.map_nil, List.mem_singleton] at hb
      exact h (hb ▸ hab ▸ ha) }

end AliasTable

end PathJail
