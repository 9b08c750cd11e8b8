import PathJail.Proofs.Path.Normal

/-!
# Absolute paths in canonical form

What `clean` makes of an absolute path: names with a slash before each, and at most one slash
behind them. Bases, working directories, aliases and the paths for the host all have this form, most
of them without the slash at the end.

* `Tidy`, `Trimmed`            — the form, with and without a slash allowed at the end.
* `tidy_iff`, `trimmed_iff`    — the same by way of the list of names.
* `tidy_clean`, `clean_of_tidy` — cleaning makes an absolute path tidy and leaves a tidy one alone.
* `trimmed_trimSlashes`, `trimmed_trimSlash` — what dropping slashes makes of a tidy path; the
  `_of_trimmed` lemmas say that it leaves a trimmed one alone.
-/

namespace PathJail.Path

/-- An absolute path without `.` and `..`, and without an empty segment but the one that a single
slash at the end leaves. -/
structure Tidy (p : Text) : Prop where
  absolute : isAbsolute p = true
  /-- The segments between the slash in front and the last one. -/
  inner : ∀ n ∈ (front p).tail, IsName n
  last : final p = [] ∨ IsName (final p)

/-- A tidy path without a slash at the end, unless it is the root. -/
structure Trimmed (p : Text) : Prop where
  tidy : Tidy p
  no_slash : p = ['/'] ∨ p.getLast? ≠ some '/'

-- ---------------------------------------------------------------------------
-- The names of a tidy path
-- ---------------------------------------------------------------------------

/-- A path made of names is absolute. -/
theorem isAbsolute_rooted {names : List Text} (h : names ≠ []) :
    isAbsolute (rooted names) = true := by
  rw [rooted_eq_slash_joined h]
  rfl

theorem isAbsolute_rooted_slash (names : List Text) :
    isAbsolute (rooted names ++ ['/']) = true := by
  cases names <;> rfl

/-- A name behind others, and a slash in front of it. -/
theorem rooted_concat (names : List Text) (n : Text) :
    rooted (names ++ [n]) = rooted names ++ '/' :: n := by
  simp

/-- A path made of names is tidy with a slash at its end. -/
theorem tidy_rooted_slash {names : List Text} (hNames : ∀ n ∈ names, IsName n) :
    Tidy (rooted names ++ ['/']) where
  absolute := isAbsolute_rooted_slash names
  inner := by
    rw [front_append_slash, segments_rooted hNames, front_of_not_mem List.not_mem_nil,
      List.append_nil]
    exact hNames
  last := Or.inl (by rw [final_append_slash, final_of_not_mem List.not_mem_nil])

theorem tidy_rooted {names : List Text} (hNames : ∀ n ∈ names, IsName n) (h : names ≠ []) :
    Tidy (rooted names) := by
  obtain ⟨init, n, rfl⟩ : ∃ init n, names = init ++ [n] :=
    ⟨_, _, (List.dropLast_concat_getLast h).symm⟩
  have hn : IsName n := hNames n (by simp)
  have hInit : ∀ m ∈ init, IsName m := fun m hm => hNames m (by simp [hm])
  refine ⟨isAbsolute_rooted h, ?_, Or.inr ?_⟩
  · rw [rooted_concat, front_append_slash, segments_rooted hInit, front_of_not_mem hn.no_slash,
      List.append_nil]
    exact hInit
  · rw [rooted_concat, final_append_slash, final_of_not_mem hn.no_slash]
    exact hn

theorem tidy_root : Tidy ['/'] :=
  @tidy_rooted_slash [] fun _ hn => absurd hn List.not_mem_nil

/-- The tidy paths are names with a slash before each, and with one more slash or without it. -/
theorem tidy_iff {p : Text} : Tidy p ↔ ∃ names, (∀ n ∈ names, IsName n) ∧
    (p = rooted names ++ ['/'] ∨ names ≠ [] ∧ p = rooted names) := by
  constructor
  · rintro ⟨hAbsolute, hInner, hLast⟩
    obtain ⟨rest, rfl⟩ := isAbsolute_iff.mp hAbsolute
    have hp : '/' :: rest = rooted (front rest ++ [final rest]) := by
      rw [rooted_eq_slash_joined (by simp), ← segments_eq, joined_segments]
    rw [front_slash_cons, List.tail_cons] at hInner
    rw [final_slash_cons] at hLast
    rcases hLast with hEmpty | hName
    · refine ⟨front rest, hInner, Or.inl ?_⟩
      rw [hp, hEmpty, rooted_concat]
    · refine ⟨front rest ++ [final rest], ?_, Or.inr ⟨by simp, hp⟩⟩
      intro n hn
      rw [List.mem_append, List.mem_singleton] at hn
      exact hn.elim (hInner n) fun h => h ▸ hName
  · rintro ⟨names, hNames, rfl | ⟨h, rfl⟩⟩
    · exact tidy_rooted_slash hNames
    · exact tidy_rooted hNames h

theorem Tidy.eq_slash_cons {p : Text} (h : Tidy p) : ∃ rest, p = '/' :: rest :=
  isAbsolute_iff.mp h.absolute

/-- What a tidy path has from a slash on is tidy. -/
theorem tidy_of_append {a b : Text} (h : Tidy (a ++ '/' :: b)) : Tidy ('/' :: b) := by
  obtain ⟨first, others, hSegments⟩ := List.exists_cons_of_ne_nil (segments_ne_nil a)
  refine ⟨rfl, fun n hn => h.inner n ?_, ?_⟩
  · rw [front_slash_cons, List.tail_cons] at hn
    rw [front_append_slash, hSegments, List.cons_append, List.tail_cons]
    exact List.mem_append_right others hn
  · rw [final_slash_cons, ← final_append_slash a b]
    exact h.last

/-- A tidy path behind one made of names is tidy. -/
theorem tidy_rooted_append {names : List Text} {p : Text} (hNames : ∀ n ∈ names, IsName n)
    (h : Tidy p) : Tidy (rooted names ++ p) := by
  obtain ⟨more, hMore, hp⟩ := tidy_iff.mp h
  have hAll : ∀ n ∈ names ++ more, IsName n := fun n hn =>
    (List.mem_append.mp hn).elim (hNames n) (hMore n)
  refine tidy_iff.mpr ⟨names ++ more, hAll, ?_⟩
  rcases hp with rfl | ⟨hne, rfl⟩
  · exact Or.inl (by rw [rooted_append, List.append_assoc])
  · exact Or.inr ⟨by simp [hne], (rooted_append names more).symm⟩

/-- Behind the slash in front a tidy path is relative, and nothing in it climbs. -/
theorem tidy_slash_cons {rest : Text} (h : Tidy ('/' :: rest)) :
    isAbsolute rest = false ∧ ['.', '.'] ∉ segments rest := by
  have hInner := h.inner
  have hLast := h.last
  rw [front_slash_cons, List.tail_cons] at hInner
  rw [final_slash_cons] at hLast
  constructor
  · rw [Bool.eq_false_iff]
    intro hAbsolute
    obtain ⟨tail, rfl⟩ := isAbsolute_iff.mp hAbsolute
    refine (hInner [] ?_).ne_nil rfl
    rw [front_slash_cons]
    exact List.mem_cons_self
  · rw [segments_eq, List.mem_append, List.mem_singleton]
    rintro (hUp | hUp)
    · exact (hInner _ hUp).ne_up rfl
    · rw [← hUp] at hLast
      exact hLast.elim (by simp) fun hName => hName.ne_up rfl

-- ---------------------------------------------------------------------------
-- Cleaning
-- ---------------------------------------------------------------------------

/-- Settling keeps all that is on the stack a name. -/
theorem isName_settle {stack : List Text} {segment : Text} (h : ∀ n ∈ stack, IsName n)
    (hSlash : '/' ∉ segment) : ∀ n ∈ settle stack segment, IsName n := by
  intro n hn
  rw [settle] at hn
  split at hn
  · exact h n hn
  · rename_i hSomething
    rw [not_or] at hSomething
    split at hn
    · exact h n (List.dropLast_subset _ hn)
    · rename_i hUp
      rw [List.mem_append, List.mem_singleton] at hn
      exact hn.elim (h n) fun hn => hn ▸ ⟨hSomething.1, hSomething.2, hUp, hSlash⟩

/-- The stack holds names at every moment. -/
theorem isName_of_mem_settled {segments : List Text} (h : ∀ n ∈ segments, '/' ∉ n) :
    ∀ n ∈ settled segments, IsName n := by
  suffices hAll : ∀ stack : List Text, (∀ n ∈ stack, IsName n) →
      ∀ n ∈ segments.foldl settle stack, IsName n by
    exact hAll [] (by simp)
  induction segments with
  | nil => exact fun stack hStack => hStack
  | cons m segments ih =>
    intro stack hStack
    rw [List.foldl_cons]
    exact ih (fun n hn => h n (List.mem_cons_of_mem m hn)) _
      (isName_settle hStack (h m List.mem_cons_self))

/-- **Cleaning an absolute path** makes it tidy. -/
theorem tidy_clean {p : Text} (h : isAbsolute p = true) : Tidy (clean p) := by
  rw [clean_eq_normal, normal, h, tidy_iff]
  have hFront : ∀ n ∈ settled (front p), IsName n :=
    isName_of_mem_settled fun n hn => not_mem_of_mem_segments (List.dropLast_subset _ hn)
  refine ⟨settle (settled (front p)) (final p), isName_settle hFront (not_mem_final p), ?_⟩
  by_cases hEmpty : settle (settled (front p)) (final p) = []
  · left
    simp [rebuild, hEmpty]
  · rw [rooted_eq_slash_joined hEmpty]
    simp only [rebuild, if_true]
    split
    · exact Or.inl rfl
    · exact Or.inr ⟨hEmpty, List.append_nil _⟩

theorem clean_of_tidy {p : Text} (h : Tidy p) : clean p = p := by
  rw [clean_eq_normal]
  obtain ⟨names, hNames, rfl | ⟨hne, rfl⟩⟩ := tidy_iff.mp h
  · rw [normal_slash _ _ List.not_mem_nil, segments_rooted hNames, settled_root_cons,
      settled_of_names hNames, isAbsolute_rooted_slash]
    by_cases hEmpty : names = []
    · simp [rebuild, settle, hEmpty]
    · simp [rebuild, settle, hEmpty, rooted_eq_slash_joined hEmpty]
  · obtain ⟨init, n, rfl⟩ : ∃ init n, names = init ++ [n] :=
      ⟨_, _, (List.dropLast_concat_getLast hne).symm⟩
    have hn : IsName n := hNames n (by simp)
    have hInit : ∀ m ∈ init, IsName m := fun m hm => hNames m (by simp [hm])
    rw [rooted_concat, normal_slash _ _ hn.no_slash, segments_rooted hInit, settled_root_cons,
      settled_of_names hInit, isAbsolute_rooted_slash, ← rooted_concat,
      rooted_eq_slash_joined hne]
    simp [rebuild, settle_name hn, hn.ne_nil, hn.ne_dot, hn.ne_up]

/-- A relative path that no rule changes is tidy behind a slash, unless it is nothing but dots. -/
theorem tidy_of_relative {q : Text} (h : simplify? q = none) (hRelative : isAbsolute q = false)
    (hDot : q ≠ ['.']) (hUp : q ≠ ['.', '.']) : Tidy ('/' :: q) := by
  obtain ⟨hLevel, hEnd⟩ := level_of_simplify?_eq_none h
  obtain ⟨names, hNames, -, hFront⟩ := front_of_level hLevel
  rw [hRelative, if_neg Bool.false_ne_true] at hFront
  refine ⟨rfl, ?_, ?_⟩
  · rw [front_slash_cons, List.tail_cons, hFront]
    exact hNames
  · rw [final_slash_cons]
    by_cases hEmpty : final q = []
    · exact Or.inl hEmpty
    right
    by_cases hSingle : front q = []
    · have hq := eq_final hSingle
      exact ⟨hEmpty, hq ▸ hDot, hq ▸ hUp, not_mem_final q⟩
    · exact ⟨hEmpty, (hEnd hSingle).1, (hEnd hSingle).2, not_mem_final q⟩

-- ---------------------------------------------------------------------------
-- Slashes at the end
-- ---------------------------------------------------------------------------

/-- The trimmed path of names: the root, when there are none. -/
def trimmedPath (names : List Text) : Text := if names = [] then ['/'] else rooted names

/-- A path made of names is some text. -/
theorem rooted_ne_nil {names : List Text} (h : names ≠ []) : rooted names ≠ [] := by
  rw [rooted_eq_slash_joined h]
  exact List.cons_ne_nil _ _

theorem one_lt_length_rooted {names : List Text} (hNames : ∀ n ∈ names, IsName n)
    (h : names ≠ []) : 1 < (rooted names).length := by
  obtain ⟨n, rest, rfl⟩ := List.exists_cons_of_ne_nil h
  have := List.length_pos_iff.mpr (hNames n List.mem_cons_self).ne_nil
  rw [rooted_cons, List.length_append, List.length_cons]
  omega

theorem getLast?_rooted {names : List Text} (hNames : ∀ n ∈ names, IsName n) :
    (rooted names).getLast? ≠ some '/' := by
  by_cases hEmpty : names = []
  · simp [hEmpty]
  · obtain ⟨init, n, rfl⟩ : ∃ init n, names = init ++ [n] :=
      ⟨_, _, (List.dropLast_concat_getLast hEmpty).symm⟩
    have hn : IsName n := hNames n (by simp)
    obtain ⟨m, c, rfl⟩ : ∃ m c, n = m ++ [c] :=
      ⟨_, _, (List.dropLast_concat_getLast hn.ne_nil).symm⟩
    rw [rooted_concat, ← List.cons_append, ← List.append_assoc, List.getLast?_concat]
    intro hLast
    obtain rfl : c = '/' := Option.some.inj hLast
    exact hn.no_slash (by simp)

/-- Without a slash at the end there is nothing to take off. -/
theorem bare_of_getLast? {p : Text} (h : p.getLast? ≠ some '/') : bare p = p := by
  rw [← List.head?_reverse] at h
  cases hp : p.reverse with
  | nil => simp [bare, List.reverse_eq_nil_iff.mp hp]
  | cons c cs =>
    have hc : c ≠ '/' := by simpa [hp] using h
    rw [bare, hp, List.dropWhile_cons_of_neg (by simpa using hc), ← hp, List.reverse_reverse]

/-- One slash more at the end is taken off with the others. -/
theorem bare_append_slash (p : Text) : bare (p ++ ['/']) = bare p := by
  simp [bare]

theorem bare_rooted {names : List Text} (hNames : ∀ n ∈ names, IsName n) :
    bare (rooted names) = rooted names :=
  bare_of_getLast? (getLast?_rooted hNames)

/-- Taking off all slashes from a path made of names leaves the path of these names. -/
theorem trimSlashes_rooted_slash {names : List Text} (hNames : ∀ n ∈ names, IsName n) :
    trimSlashes (rooted names ++ ['/']) = trimmedPath names := by
  rw [trimSlashes, bare_append_slash, bare_rooted hNames, trimmedPath]
  by_cases hEmpty : names = []
  · simp [hEmpty]
  · rw [if_neg (rooted_ne_nil hEmpty), if_neg hEmpty]

theorem trimSlashes_rooted {names : List Text} (hNames : ∀ n ∈ names, IsName n)
    (h : names ≠ []) : trimSlashes (rooted names) = trimmedPath names := by
  rw [trimSlashes, bare_rooted hNames, if_neg (rooted_ne_nil h), trimmedPath, if_neg h]

/-- Taking off one slash comes to the same for tidy paths. -/
theorem trimSlash_rooted_slash (names : List Text) :
    trimSlash (rooted names ++ ['/']) = trimmedPath names := by
  rw [trimSlash, trimmedPath]
  by_cases hEmpty : names = []
  · simp [hEmpty]
  · have := List.length_pos_iff.mpr (rooted_ne_nil hEmpty)
    rw [if_pos ⟨by simpa using this, by simp⟩, if_neg hEmpty, List.dropLast_concat]

theorem trimSlash_rooted {names : List Text} (hNames : ∀ n ∈ names, IsName n)
    (h : names ≠ []) : trimSlash (rooted names) = trimmedPath names := by
  rw [trimSlash, if_neg fun hSlash => getLast?_rooted hNames hSlash.2, trimmedPath, if_neg h]

/-- The root is trimmed, since its slash is not taken off. -/
theorem trimmed_root : Trimmed ['/'] := ⟨tidy_root, Or.inl rfl⟩

/-- The trimmed paths are those of names. -/
theorem trimmed_iff {p : Text} :
    Trimmed p ↔ ∃ names, (∀ n ∈ names, IsName n) ∧ p = trimmedPath names := by
  constructor
  · rintro ⟨hTidy, hEnd⟩
    obtain ⟨names, hNames, rfl | ⟨hne, rfl⟩⟩ := tidy_iff.mp hTidy
    · refine ⟨names, hNames, ?_⟩
      rcases hEnd with hRoot | hEnd
      · rw [hRoot, ← trimSlash_rooted_slash names, hRoot]
        rfl
      · simp at hEnd
    · exact ⟨names, hNames, by rw [trimmedPath, if_neg hne]⟩
  · rintro ⟨names, hNames, rfl⟩
    rw [trimmedPath]
    split
    · exact trimmed_root
    · rename_i hne
      exact ⟨tidy_rooted hNames hne, Or.inr (getLast?_rooted hNames)⟩

/-- A tidy path is trimmed by taking off its slashes. -/
theorem trimmed_trimSlashes {p : Text} (h : Tidy p) : Trimmed (trimSlashes p) := by
  obtain ⟨names, hNames, rfl | ⟨hne, rfl⟩⟩ := tidy_iff.mp h
  · exact trimmed_iff.mpr ⟨names, hNames, trimSlashes_rooted_slash hNames⟩
  · exact trimmed_iff.mpr ⟨names, hNames, trimSlashes_rooted hNames hne⟩

theorem trimmed_trimSlash {p : Text} (h : Tidy p) : Trimmed (trimSlash p) := by
  obtain ⟨names, hNames, rfl | ⟨hne, rfl⟩⟩ := tidy_iff.mp h
  · exact trimmed_iff.mpr ⟨names, hNames, trimSlash_rooted_slash names⟩
  · exact trimmed_iff.mpr ⟨names, hNames, trimSlash_rooted hNames hne⟩

theorem trimSlashes_of_trimmed {p : Text} (h : Trimmed p) : trimSlashes p = p := by
  obtain ⟨names, hNames, rfl⟩ := trimmed_iff.mp h
  by_cases hEmpty : names = []
  · subst hEmpty
    rfl
  · rw [trimmedPath, if_neg hEmpty, trimSlashes_rooted hNames hEmpty, trimmedPath, if_neg hEmpty]

theorem trimSlash_of_trimmed {p : Text} (h : Trimmed p) : trimSlash p = p := by
  obtain ⟨names, hNames, rfl⟩ := trimmed_iff.mp h
  by_cases hEmpty : names = []
  · subst hEmpty
    rfl
  · rw [trimmedPath, if_neg hEmpty, trimSlash_rooted hNames hEmpty, trimmedPath, if_neg hEmpty]

/-- A slash that was added behind a trimmed path is taken off again. -/
theorem trimSlashes_append_slash {p : Text} (h : Trimmed p) (hRoot : p ≠ ['/']) :
    trimSlashes (p ++ ['/']) = p := by
  obtain ⟨names, hNames, rfl⟩ := trimmed_iff.mp h
  have hEmpty : names ≠ [] := by
    rintro rfl
    exact hRoot rfl
  rw [trimmedPath, if_neg hEmpty, trimSlashes_rooted_slash hNames, trimmedPath, if_neg hEmpty]

/-- What a trimmed path has from a slash on is trimmed. -/
theorem trimmed_of_append {a b : Text} (h : Trimmed (a ++ '/' :: b)) : Trimmed ('/' :: b) := by
  refine ⟨tidy_of_append h.tidy, ?_⟩
  cases b with
  | nil => exact Or.inl rfl
  | cons c cs =>
    right
    rcases h.no_slash with hRoot | hLast
    · have hLength := congrArg List.length hRoot
      simp only [List.length_append, List.length_cons, List.length_nil] at hLength
      omega
    · intro hSlash
      obtain ⟨before, hBefore⟩ := List.getLast?_eq_some_iff.mp hSlash
      rw [hBefore, ← List.append_assoc, List.getLast?_concat] at hLast
      exact hLast rfl

/-- A `.` behind a trimmed path comes to the path itself. -/
theorem trimSlash_clean_append_dot {p : Text} (h : Trimmed p) :
    trimSlash (clean (p ++ '/' :: ['.'])) = p := by
  obtain ⟨names, hNames, rfl⟩ := trimmed_iff.mp h
  by_cases hEmpty : names = []
  · subst hEmpty
    rw [clean_eq_normal]
    rfl
  · have hDot : clean (rooted names ++ '/' :: ['.']) = clean (rooted names ++ ['/']) := by
      rw [clean_eq_normal, clean_eq_normal, normal_slash _ _ (by decide),
        normal_slash _ _ List.not_mem_nil]
      exact rebuild_dot (Or.inl (isAbsolute_rooted_slash names))
    rw [trimmedPath, if_neg hEmpty, hDot, clean_of_tidy (tidy_rooted_slash hNames),
      trimSlash_rooted_slash, trimmedPath, if_neg hEmpty]

-- ---------------------------------------------------------------------------
-- Positions
-- ---------------------------------------------------------------------------

theorem bare_prefix (p : Text) : bare p <+: p := by
  have hSuffix : p.reverse.dropWhile (fun c => decide (c = '/')) <:+ p.reverse :=
    List.dropWhile_suffix _
  have hPrefix := List.reverse_prefix.mpr hSuffix
  rwa [List.reverse_reverse] at hPrefix

theorem isAbsolute_parent {p dir : Text} (h : isAbsolute p = true) (hDir : parent p = some dir) :
    isAbsolute dir = true := by
  unfold parent at hDir
  split at hDir
  · cases hDir
  · rw [← Option.some.inj hDir]
    rfl
  · rename_i above name hNotRoot hSplit
    obtain rfl := Option.some.inj hDir
    obtain ⟨hBare, -⟩ := append_of_splitLast hSplit
    obtain ⟨tail, hTail⟩ := bare_prefix p
    rw [hBare] at hTail
    cases above with
    | nil => exact absurd rfl hNotRoot
    | cons c cs =>
      rw [← hTail] at h
      exact h

/-- What lies below a directory is nothing, or an absolute path as seen from there. -/
theorem isAbsolute_of_below? {dir p rest : Text} (h : below? dir p = some rest) :
    rest = [] ∨ isAbsolute rest = true := by
  unfold below? at h
  split at h
  · exact Or.inl (Option.some.inj h).symm
  · rw [← Option.some.inj h]
    exact Or.inr rfl
  · cases h

end PathJail.Path
