import PathJail.Proofs.Path.Segments

/-!
# Cleaning in one pass

`clean` carries out one of eight overlapping rules after another. What comes out does not depend on
that order of events: it is what one pass over the segments gives, in which a name is pushed on a
stack, `..` pops the last one, and an empty segment or `.` does nothing.

* `settle`, `settled`          — one segment taken in, and the names that a list of segments leaves.
* `normal`                     — the path rebuilt from the names that its front leaves and its last
  segment.
* `normal_eq_of_simplify?`     — no rule changes the value of `normal`; one lemma for each rule.
* `Level`, `front_of_level`    — where the first six rules are done, the front consists of names.
* `normal_eq_self`             — where no rule is left, the path is its own value.
* `clean_eq_normal`, `clean_eq_fold` — so the rules compute `normal`.
-/

namespace PathJail.Path

-- ---------------------------------------------------------------------------
-- The pass
-- ---------------------------------------------------------------------------

/-- One segment taken in, on the stack of the names kept so far; the last name is the top. -/
def settle (stack : List Text) (segment : Text) : List Text :=
  if segment = [] ∨ segment = ['.'] then stack
  else if segment = ['.', '.'] then stack.dropLast
  else stack ++ [segment]

/-- The names that segments leave. -/
def settled (segments : List Text) : List Text := segments.foldl settle []

/-- The path of the names in front and a last segment. A last segment that names nothing leaves a
slash; an absolute path without names needs no further one. -/
def rebuild (absolute : Bool) (stack : List Text) (last : Text) : Text :=
  if absolute then
    '/' :: joined (settle stack last) ++
      if settle stack last ≠ [] ∧ (last = [] ∨ last = ['.'] ∨ last = ['.', '.']) then ['/'] else []
  else if stack = [] then last
  else if last = [] ∨ last = ['.'] then joined stack ++ ['/']
  else if last = ['.', '.'] then joined stack.dropLast ++ ['/']
  else joined stack ++ '/' :: last

/-- What one pass over the segments makes of a path. -/
def normal (p : Text) : Text := rebuild (isAbsolute p) (settled (front p)) (final p)

/-- A `..` takes away the name before it. -/
theorem settle_up (stack : List Text) : settle stack ['.', '.'] = stack.dropLast := by
  simp [settle]

theorem settle_name {n : Text} (h : IsName n) (stack : List Text) :
    settle stack n = stack ++ [n] := by
  simp [settle, h.ne_nil, h.ne_dot, h.ne_up]

theorem settled_concat (segments : List Text) (segment : Text) :
    settled (segments ++ [segment]) = settle (settled segments) segment := by
  simp [settled]

/-- Two lists of segments that leave the same names go on leaving the same. -/
theorem settled_append_congr {a b : List Text} (h : settled a = settled b) (c : List Text) :
    settled (a ++ c) = settled (b ++ c) := by
  simp only [settled, List.foldl_append] at h ⊢
  rw [h]

/-- Names settle in any place. -/
theorem foldl_settle_names {names : List Text} (h : ∀ n ∈ names, IsName n) (stack : List Text) :
    names.foldl settle stack = stack ++ names := by
  induction names generalizing stack with
  | nil => simp
  | cons n names ih =>
    rw [List.foldl_cons, settle_name (h n List.mem_cons_self),
      ih fun m hm => h m (List.mem_cons_of_mem n hm)]
    simp

/-- Names come to themselves. -/
theorem settled_of_names {names : List Text} (h : ∀ n ∈ names, IsName n) :
    settled names = names := by
  rw [settled, foldl_settle_names h, List.nil_append]

/-- The empty segment in front of an absolute path comes to nothing. -/
theorem settled_root_cons (segments : List Text) : settled ([] :: segments) = settled segments :=
  rfl

-- ---------------------------------------------------------------------------
-- Where a piece is found
-- ---------------------------------------------------------------------------

/-- Where a search finds nothing, there is nothing. -/
theorem not_infix_of_splitFirst_eq_none {piece p : Text} (h : splitFirst piece p = none) :
    ¬ piece <:+: p := by
  rintro ⟨x, y, rfl⟩
  induction x with
  | nil =>
    have hHere : Text.after? piece (piece ++ y) = some y := Text.after?_eq_some_iff.mpr rfl
    cases hp : piece ++ y with
    | nil => simp [splitFirst, hp ▸ hHere, hp] at h
    | cons c cs =>
      rw [hp] at hHere
      simp [splitFirst, hp, hHere] at h
  | cons c x ih =>
    simp only [List.cons_append, splitFirst] at h
    split at h
    · simp at h
    · exact ih (by simpa using h)

/-- What is found is the first occurrence: none begins further to the left. -/
theorem length_le_of_splitFirst {piece p before after x y : Text}
    (h : splitFirst piece p = some (before, after)) (hp : p = x ++ piece ++ y) :
    before.length ≤ x.length := by
  induction p generalizing before x with
  | nil =>
    simp only [splitFirst, Option.map_eq_some_iff, Prod.mk.injEq] at h
    obtain ⟨rest, -, rfl, -⟩ := h
    exact Nat.zero_le _
  | cons c cs ih =>
    rw [splitFirst] at h
    split at h
    · simp only [Option.some.injEq, Prod.mk.injEq] at h
      obtain ⟨rfl, -⟩ := h
      exact Nat.zero_le _
    · rename_i hNot
      simp only [Option.map_eq_some_iff, Prod.mk.injEq] at h
      obtain ⟨found, hFound, rfl, rfl⟩ := h
      cases x with
      | nil =>
        rw [List.nil_append] at hp
        rw [Text.after?_eq_some_iff.mpr hp] at hNot
        exact absurd hNot (by simp)
      | cons d x =>
        rw [List.cons_append, List.cons_append, List.cons.injEq] at hp
        simpa using ih hFound hp.2

-- ---------------------------------------------------------------------------
-- What can be taken out
-- ---------------------------------------------------------------------------

theorem isAbsolute_iff {p : Text} : isAbsolute p = true ↔ ∃ rest, p = '/' :: rest := by
  cases p with
  | nil => simp [isAbsolute]
  | cons c cs => simp [isAbsolute]

/-- Whether a path is absolute is told by its front. -/
theorem isAbsolute_append {a : Text} (h : a ≠ []) (b : Text) :
    isAbsolute (a ++ b) = isAbsolute a := by
  cases a with
  | nil => exact absurd rfl h
  | cons c cs => rfl

theorem isAbsolute_append_slash (a b c : Text) :
    isAbsolute (a ++ '/' :: b) = isAbsolute (a ++ '/' :: c) := by
  cases a <;> rfl

/-- Where no two slashes meet, what follows a slash is relative. -/
theorem isAbsolute_rest (a rest : Text) (h : ¬ ['/', '/'] <:+: a ++ '/' :: rest) :
    isAbsolute rest = false := by
  rw [Bool.eq_false_iff]
  intro hRest
  obtain ⟨tail, rfl⟩ := isAbsolute_iff.mp hRest
  exact h ⟨a, tail, by simp⟩

/-- The normal form depends on whether a path is absolute, on what its front comes to, and on its last
segment. -/
theorem normal_congr {p q : Text} (hAbsolute : isAbsolute p = isAbsolute q)
    (hFront : settled (front p) = settled (front q)) (hFinal : final p = final q) :
    normal p = normal q := by
  rw [normal, normal, hAbsolute, hFront, hFinal]

/-- A piece between two slashes can go, if its segments do nothing where they stand. -/
theorem normal_skip (a mid b : Text)
    (h : settled (segments a ++ segments mid) = settled (segments a)) :
    normal (a ++ '/' :: (mid ++ '/' :: b)) = normal (a ++ '/' :: b) := by
  apply normal_congr
  · exact isAbsolute_append_slash ..
  · rw [front_append_slash, front_append_slash, front_append_slash, ← List.append_assoc]
    exact settled_append_congr h (front b)
  · rw [final_append_slash, final_append_slash, final_append_slash]

/-- A relative piece at the start can go with the slash behind it, if its segments leave no name and
the rest is relative too. -/
theorem normal_drop_start (start rest : Text) (hne : start ≠ [])
    (hStart : isAbsolute start = false) (hRest : isAbsolute rest = false)
    (h : settled (segments start) = []) : normal (start ++ '/' :: rest) = normal rest := by
  apply normal_congr
  · rw [isAbsolute_append hne, hStart, hRest]
  · rw [front_append_slash]
    exact settled_append_congr (b := []) h (front rest)
  · rw [final_append_slash]

/-- A name with `..` behind it does nothing. -/
theorem settled_name_up (segments : List Text) {n : Text} (hn : IsName n) :
    settled (segments ++ [n, ['.', '.']]) = settled segments := by
  rw [show segments ++ [n, ['.', '.']] = (segments ++ [n]) ++ [['.', '.']] by simp,
    settled_concat, settled_concat, settle_name hn, settle_up, List.dropLast_concat]

theorem segments_name_up {n : Text} (hn : '/' ∉ n) :
    segments (n ++ '/' :: ['.', '.']) = [n, ['.', '.']] := by
  rw [segments_append_slash, segments_of_not_mem hn]
  rfl

-- ---------------------------------------------------------------------------
-- The rules in front, one by one
-- ---------------------------------------------------------------------------

/-- The rule for two slashes keeps the normal form. -/
theorem normal_eq_of_joinSlashes {p q : Text} (h : joinSlashes p = some q) :
    normal p = normal q := by
  obtain ⟨⟨before, after⟩, hFound, rfl⟩ := Option.map_eq_some_iff.mp h
  rw [append_of_splitFirst hFound, List.append_assoc]
  exact normal_skip before [] after (settled_concat (segments before) [])

/-- So does the rule for a dot between slashes. -/
theorem normal_eq_of_skipDot {p q : Text} (h : skipDot p = some q) : normal p = normal q := by
  obtain ⟨⟨before, after⟩, hFound, rfl⟩ := Option.map_eq_some_iff.mp h
  rw [append_of_splitFirst hFound, List.append_assoc]
  exact normal_skip before ['.'] after (settled_concat (segments before) ['.'])

/-- So does the rule for a `..` in front of all names. -/
theorem normal_eq_of_dropLeadingUp {p q : Text} (hEmpty : ¬ ['/', '/'] <:+: p)
    (h : dropLeadingUp p = some q) : normal p = normal q := by
  obtain rfl : p = ['.', '.', '/'] ++ q := Text.after?_eq_some_iff.mp h
  exact normal_drop_start ['.', '.'] q (by decide) rfl (isAbsolute_rest ['.', '.'] q hEmpty) rfl

/-- So does the rule for a `..` at the root. -/
theorem normal_eq_of_dropUpAtRoot {p q : Text} (h : dropUpAtRoot p = some q) :
    normal p = normal q := by
  obtain ⟨rest, hRest, rfl⟩ := Option.map_eq_some_iff.mp h
  rw [Text.after?_eq_some_iff.mp hRest]
  exact normal_skip [] ['.', '.'] rest rfl

/-- Of the segment that `cancelUp` removes it is only known that it is no `..`, since of two such
steps in a row the first would have been found. At the start of a path it may be `.`. -/
theorem normal_eq_of_cancelUp {p q : Text} (hEmpty : ¬ ['/', '/'] <:+: p)
    (hDot : ¬ ['/', '.', '/'] <:+: p) (hUp : ¬ ['.', '.', '/'] <+: p)
    (hRoot : ¬ ['/', '.', '.', '/'] <+: p) (h : cancelUp p = some q) : normal p = normal q := by
  obtain ⟨⟨before, after⟩, hFound, rfl⟩ := Option.map_eq_some_iff.mp h
  have hp := append_of_splitFirst hFound
  have hAfter : isAbsolute after = false := by
    apply isAbsolute_rest (before ++ ['/', '.', '.'])
    simpa [hp] using hEmpty
  cases hSplit : splitLast before with
  | none =>
    have hSlash : '/' ∉ before := splitLast_eq_none_iff.mp hSplit
    have hne : before ≠ [] := by
      rintro rfl
      exact hRoot ⟨after, hp.symm⟩
    have hStart : isAbsolute before = false := by
      rw [Bool.eq_false_iff]
      intro hAbsolute
      obtain ⟨tail, rfl⟩ := isAbsolute_iff.mp hAbsolute
      exact hSlash List.mem_cons_self
    have hSettled : settled [before, ['.', '.']] = [] := by
      by_cases hBefore : before = ['.']
      · rw [hBefore]
        rfl
      · refine settled_name_up [] ⟨hne, hBefore, ?_, hSlash⟩
        rintro rfl
        exact hUp ⟨['.', '.', '/'] ++ after, by simp [hp]⟩
    rw [hp, throughSlash, hSplit, Option.map_none, Option.getD_none, List.nil_append,
      show before ++ ['/', '.', '.', '/'] ++ after =
        (before ++ '/' :: ['.', '.']) ++ '/' :: after by simp]
    refine normal_drop_start _ after (by simp) ?_ hAfter ?_
    · rw [isAbsolute_append hne, hStart]
    · rw [segments_name_up hSlash, hSettled]
  | some found =>
    obtain ⟨dir, name⟩ := found
    obtain ⟨rfl, hSlash⟩ := append_of_splitLast hSplit
    have hName : IsName name := by
      refine ⟨?_, ?_, ?_, hSlash⟩
      · rintro rfl
        exact hEmpty ⟨dir, ['.', '.', '/'] ++ after, by simp [hp]⟩
      · rintro rfl
        exact hDot ⟨dir, ['.', '.', '/'] ++ after, by simp [hp]⟩
      · -- a `..` before this one would have been found first
        rintro rfl
        have := length_le_of_splitFirst hFound
          (show p = dir ++ ['/', '.', '.', '/'] ++ (['.', '.', '/'] ++ after) by simp [hp])
        simp only [List.length_append, List.length_cons] at this
        omega
    rw [hp, throughSlash, hSplit, Option.map_some, Option.getD_some,
      show dir ++ '/' :: name ++ ['/', '.', '.', '/'] ++ after =
        dir ++ '/' :: ((name ++ '/' :: ['.', '.']) ++ '/' :: after) by simp,
      show dir ++ ['/'] ++ after = dir ++ '/' :: after by simp]
    apply normal_skip
    rw [segments_name_up hSlash, settled_name_up _ hName]

/-- The rule for a dot in front keeps the normal form. -/
theorem normal_eq_of_dropLeadingDot {p q : Text} (hEmpty : ¬ ['/', '/'] <:+: p)
    (h : dropLeadingDot p = some q) : normal p = normal q := by
  obtain rfl : p = ['.', '/'] ++ q := Text.after?_eq_some_iff.mp h
  exact normal_drop_start ['.'] q (by decide) rfl (isAbsolute_rest ['.'] q hEmpty) rfl

-- ---------------------------------------------------------------------------
-- Paths that the rules in front leave alone
-- ---------------------------------------------------------------------------

/-- A path to which none of the first six rules applies. -/
structure Level (p : Text) : Prop where
  no_empty : ¬ ['/', '/'] <:+: p
  no_dot : ¬ ['/', '.', '/'] <:+: p
  no_up : ¬ ['/', '.', '.', '/'] <:+: p
  no_start_dot : ¬ ['.', '/'] <+: p
  no_start_up : ¬ ['.', '.', '/'] <+: p

/-- Where nothing follows a piece, the text does not begin with it. -/
theorem not_prefix_of_after?_eq_none {piece p : Text} (h : Text.after? piece p = none) :
    ¬ piece <+: p := by
  rintro ⟨rest, hp⟩
  rw [Text.after?_eq_some_iff.mpr hp.symm] at h
  exact absurd h (by simp)

/-- Where none of these rules applies, the path is level. -/
theorem level_of_rules {p : Text} (hEmpty : joinSlashes p = none) (hDot : skipDot p = none)
    (hUp : dropLeadingUp p = none) (hCancel : cancelUp p = none)
    (hStart : dropLeadingDot p = none) : Level p where
  no_empty := not_infix_of_splitFirst_eq_none (Option.map_eq_none_iff.mp hEmpty)
  no_dot := not_infix_of_splitFirst_eq_none (Option.map_eq_none_iff.mp hDot)
  no_up := not_infix_of_splitFirst_eq_none (Option.map_eq_none_iff.mp hCancel)
  no_start_dot := not_prefix_of_after?_eq_none hStart
  no_start_up := not_prefix_of_after?_eq_none hUp

/-- In front of the last segment such a path has names only, behind the empty segment that an
absolute path begins with. -/
theorem front_of_level {p : Text} (h : Level p) :
    ∃ names, (∀ n ∈ names, IsName n) ∧ settled (front p) = names ∧
      front p = if isAbsolute p then [] :: names else names := by
  suffices hShape : ∃ names, (∀ n ∈ names, IsName n) ∧
      front p = if isAbsolute p then [] :: names else names by
    obtain ⟨names, hNames, hFront⟩ := hShape
    refine ⟨names, hNames, ?_, hFront⟩
    rw [hFront]
    split
    · rw [settled_root_cons, settled_of_names hNames]
    · exact settled_of_names hNames
  by_cases hAbsolute : isAbsolute p = true
  · obtain ⟨rest, rfl⟩ := isAbsolute_iff.mp hAbsolute
    refine ⟨front rest, isName_of_mem_front h.no_empty h.no_dot h.no_up, ?_⟩
    rw [if_pos hAbsolute]
    exact front_slash_cons rest
  · refine ⟨front p, ?_, by rw [if_neg hAbsolute]⟩
    by_cases hSlash : '/' ∈ p
    · obtain ⟨first, rest, rfl, hFirst⟩ := List.eq_append_cons_of_mem hSlash
      have hSuffix : '/' :: rest <:+: first ++ '/' :: rest := ⟨first, [], by simp⟩
      intro n hn
      rw [front_append_slash, segments_of_not_mem hFirst, List.mem_append,
        List.mem_singleton] at hn
      rcases hn with rfl | hn
      · refine ⟨?_, ?_, ?_, hFirst⟩
        · rintro rfl
          exact hAbsolute rfl
        · rintro rfl
          exact h.no_start_dot ⟨rest, rfl⟩
        · rintro rfl
          exact h.no_start_up ⟨rest, rfl⟩
      · exact isName_of_mem_front (fun hi => h.no_empty (hi.trans hSuffix))
          (fun hi => h.no_dot (hi.trans hSuffix)) (fun hi => h.no_up (hi.trans hSuffix)) n hn
    · simp [front_of_not_mem hSlash]

-- ---------------------------------------------------------------------------
-- The rules for the end of a path
-- ---------------------------------------------------------------------------

/-- A dot behind names, or at the root, can be left out. -/
theorem rebuild_dot {absolute : Bool} {stack : List Text} (h : absolute = true ∨ stack ≠ []) :
    rebuild absolute stack ['.'] = rebuild absolute stack [] := by
  cases absolute with
  | true => simp [rebuild, settle]
  | false =>
    have hStack : stack ≠ [] := by simpa using h
    simp [rebuild, hStack]

/-- A `..` behind a name can be left out together with it. -/
theorem rebuild_up {absolute : Bool} {stack : List Text} (h : absolute = true ∨ stack ≠ [])
    (n : Text) : rebuild absolute (stack ++ [n]) ['.', '.'] = rebuild absolute stack [] := by
  cases absolute with
  | true => simp [rebuild, settle]
  | false =>
    have hStack : stack ≠ [] := by simpa using h
    simp [rebuild, hStack]

/-- The value of a path with the last slash and the last segment shown. -/
theorem normal_slash (a last : Text) (h : '/' ∉ last) :
    normal (a ++ '/' :: last) = rebuild (isAbsolute (a ++ ['/'])) (settled (segments a)) last := by
  rw [normal, front_append_slash, front_of_not_mem h, List.append_nil, final_append_slash,
    final_of_not_mem h, isAbsolute_append_slash a last []]

/-- What lies in front of the last slash leaves names, unless the path is absolute. -/
theorem absolute_or_settled_ne_nil {a b : Text} (h : Level (a ++ '/' :: b)) :
    isAbsolute (a ++ ['/']) = true ∨ settled (segments a) ≠ [] := by
  by_cases hAbsolute : isAbsolute (a ++ '/' :: b) = true
  · exact Or.inl (isAbsolute_append_slash a b [] ▸ hAbsolute)
  · obtain ⟨names, hNames, -, hFront⟩ := front_of_level h
    rw [if_neg hAbsolute, front_append_slash] at hFront
    right
    rw [settled_of_names fun n hn => hNames n (hFront ▸ List.mem_append_left _ hn)]
    exact segments_ne_nil a

/-- The rule for a dot at the end keeps the normal form of a level path. -/
theorem normal_eq_of_dropDotAtEnd {p q : Text} (hLevel : Level p) (h : dropDotAtEnd p = some q) :
    normal p = normal q := by
  obtain ⟨a, hBefore, rfl⟩ := Option.map_eq_some_iff.mp h
  obtain rfl : p = a ++ '/' :: ['.'] := Text.before?_eq_some_iff.mp hBefore
  rw [normal_slash a _ (by decide), normal_slash a _ (by decide)]
  exact rebuild_dot (absolute_or_settled_ne_nil hLevel)

/-- A segment between two slashes of such a path is a name. -/
theorem isName_of_level {a n b : Text} (h : Level (a ++ '/' :: (n ++ '/' :: b)))
    (hSlash : '/' ∉ n) : IsName n := by
  refine ⟨?_, ?_, ?_, hSlash⟩
  · rintro rfl
    exact h.no_empty ⟨a, b, by simp⟩
  · rintro rfl
    exact h.no_dot ⟨a, b, by simp⟩
  · rintro rfl
    exact h.no_up ⟨a, b, by simp⟩

/-- The rule for a name with `..` behind it at the end keeps the normal form of a level path. -/
theorem normal_eq_of_cancelUpAtEnd {p q : Text} (hLevel : Level p)
    (h : cancelUpAtEnd p = some q) : normal p = normal q := by
  obtain ⟨a, hBefore, rfl⟩ := Option.map_eq_some_iff.mp h
  obtain rfl : p = a ++ '/' :: ['.', '.'] := Text.before?_eq_some_iff.mp hBefore
  rw [normal_slash a _ (by decide), throughSlash]
  cases hSplit : splitLast a with
  | none =>
    -- a single segment in front: a name, or the empty one of an absolute path
    have hSlash : '/' ∉ a := splitLast_eq_none_iff.mp hSplit
    have hRoot : normal ['/'] = ['/'] := rfl
    rw [Option.map_none, Option.getD_none, hRoot, segments_of_not_mem hSlash]
    by_cases ha : a = []
    · subst ha
      rfl
    · have hRelative : isAbsolute (a ++ ['/']) = false := by
        rw [isAbsolute_append ha, Bool.eq_false_iff]
        intro hAbsolute
        obtain ⟨rest, rfl⟩ := isAbsolute_iff.mp hAbsolute
        exact hSlash List.mem_cons_self
      have hName : IsName a := by
        obtain ⟨names, hNames, -, hFront⟩ := front_of_level hLevel
        rw [front_append_slash, segments_of_not_mem hSlash, isAbsolute_append_slash a _ [],
          hRelative, if_neg (by decide)] at hFront
        exact hNames a (hFront ▸ List.mem_cons_self)
      rw [hRelative, settled_of_names (by simpa using hName)]
      simp [rebuild]
  | some found =>
    obtain ⟨dir, name⟩ := found
    obtain ⟨rfl, hSlash⟩ := append_of_splitLast hSplit
    rw [List.append_assoc, List.cons_append] at hLevel
    have hName : IsName name := isName_of_level hLevel hSlash
    rw [Option.map_some, Option.getD_some, normal_slash dir [] (by decide),
      segments_append_slash, segments_of_not_mem hSlash, settled_concat, settle_name hName,
      List.append_assoc, List.cons_append, isAbsolute_append_slash dir _ []]
    exact rebuild_up (absolute_or_settled_ne_nil hLevel) name

-- ---------------------------------------------------------------------------
-- The rules compute the pass
-- ---------------------------------------------------------------------------

/-- No step changes the value. Each rule is used with what the failure of the more urgent ones tells
of the path. -/
theorem normal_eq_of_simplify? {p q : Text} (h : simplify? p = some q) : normal p = normal q := by
  simp only [simplify?, rules, List.findSome?_cons, List.findSome?_nil] at h
  split at h
  · rename_i h₁
    exact normal_eq_of_joinSlashes (h₁.trans h)
  rename_i h₁
  have hEmpty := not_infix_of_splitFirst_eq_none (Option.map_eq_none_iff.mp h₁)
  split at h
  · rename_i h₂
    exact normal_eq_of_skipDot (h₂.trans h)
  rename_i h₂
  split at h
  · rename_i h₃
    exact normal_eq_of_dropLeadingUp hEmpty (h₃.trans h)
  rename_i h₃
  split at h
  · rename_i h₄
    exact normal_eq_of_dropUpAtRoot (h₄.trans h)
  rename_i h₄
  split at h
  · rename_i h₅
    exact normal_eq_of_cancelUp hEmpty
      (not_infix_of_splitFirst_eq_none (Option.map_eq_none_iff.mp h₂))
      (not_prefix_of_after?_eq_none h₃)
      (not_prefix_of_after?_eq_none (Option.map_eq_none_iff.mp h₄)) (h₅.trans h)
  rename_i h₅
  split at h
  · rename_i h₆
    exact normal_eq_of_dropLeadingDot hEmpty (h₆.trans h)
  rename_i h₆
  have hLevel : Level p := level_of_rules h₁ h₂ h₃ h₅ h₆
  split at h
  · rename_i h₇
    exact normal_eq_of_dropDotAtEnd hLevel (h₇.trans h)
  split at h
  · rename_i h₈
    exact normal_eq_of_cancelUpAtEnd hLevel (h₈.trans h)
  · exact absurd h (by simp)

/-- What is known of a path that no rule changes. -/
theorem level_of_simplify?_eq_none {p : Text} (h : simplify? p = none) :
    Level p ∧ (front p ≠ [] → final p ≠ ['.'] ∧ final p ≠ ['.', '.']) := by
  simp only [simplify?, rules, List.findSome?_eq_none_iff, List.mem_cons, List.not_mem_nil,
    or_false, forall_eq_or_imp, forall_eq] at h
  obtain ⟨h₁, h₂, h₃, -, h₅, h₆, h₇, h₈⟩ := h
  refine ⟨level_of_rules h₁ h₂ h₃ h₅ h₆, fun hFront => ⟨fun hFinal => ?_, fun hFinal => ?_⟩⟩
  · have hp := eq_joined_front_slash_final hFront
    rw [hFinal] at hp
    rw [dropDotAtEnd, Text.before?_eq_some_iff.mpr hp] at h₇
    exact absurd h₇ (by simp)
  · have hp := eq_joined_front_slash_final hFront
    rw [hFinal] at hp
    rw [cancelUpAtEnd, Text.before?_eq_some_iff.mpr hp] at h₈
    exact absurd h₈ (by simp)

/-- A path that no rule changes is its own value. -/
theorem normal_eq_self {p : Text} (h : simplify? p = none) : normal p = p := by
  obtain ⟨hLevel, hEnd⟩ := level_of_simplify?_eq_none h
  obtain ⟨names, hNames, hSettled, hFront⟩ := front_of_level hLevel
  rw [normal, hSettled]
  cases hAbsolute : isAbsolute p with
  | true =>
    rw [hAbsolute, if_pos rfl] at hFront
    obtain ⟨hDot, hUp⟩ := hEnd (by simp [hFront])
    have hp : p = '/' :: joined (names ++ [final p]) := by
      calc p = joined (segments p) := (joined_segments p).symm
        _ = joined ([] :: (names ++ [final p])) := by rw [segments_eq, hFront, List.cons_append]
        _ = '/' :: joined (names ++ [final p]) := joined_cons (by simp) []
    by_cases hFinal : final p = []
    · rw [hFinal] at hp ⊢
      by_cases hEmpty : names = []
      · simpa [rebuild, settle, hEmpty] using hp.symm
      · rw [joined_concat hEmpty] at hp
        simpa [rebuild, settle, hEmpty] using hp.symm
    · simpa [rebuild, settle, hFinal, hDot, hUp] using hp.symm
  | false =>
    rw [hAbsolute, if_neg (by decide)] at hFront
    by_cases hEmpty : names = []
    · simpa [rebuild, hEmpty] using (eq_final (hFront.trans hEmpty)).symm
    · obtain ⟨hDot, hUp⟩ := hEnd (hFront ▸ hEmpty)
      have hp := eq_joined_front_slash_final (hFront ▸ hEmpty)
      rw [hFront] at hp
      by_cases hFinal : final p = []
      · rw [hFinal] at hp ⊢
        simpa [rebuild, hEmpty] using hp.symm
      · simpa [rebuild, hEmpty, hDot, hUp, hFinal] using hp.symm

/-- **The rules compute the pass.** Each step keeps the value, and where no step is left the path is
its value. -/
theorem clean_eq_normal (p : Text) : clean p = normal p := by
  fun_induction clean p with
  | case1 p h => exact (normal_eq_self h).symm
  | case2 p q h ih => rw [ih, normal_eq_of_simplify? h]

example : clean "a/./../b//c/..".toList = "b/".toList := by
  rw [clean_eq_normal]
  decide

/--
**Cleaning is one fold over the segments.** For an absolute path the stack takes in all segments,
and a last segment that names nothing leaves a slash behind the names. For a relative one the stack
takes in all segments but the last; without names in front the last segment stays as it is, `.` and
`..` included, and so a relative path may become empty, and `name/..` becomes the root.
-/
theorem clean_eq_fold (p : Text) :
    clean p =
      if p = [] then []
      else if isAbsolute p then
        let stack := settled (segments p)
        '/' :: joined stack ++
          if stack ≠ [] ∧ (final p = [] ∨ final p = ['.'] ∨ final p = ['.', '.']) then ['/'] else []
      else
        let stack := settled (front p)
        if stack = [] then final p
        else if final p = [] ∨ final p = ['.'] then joined stack ++ ['/']
        else if final p = ['.', '.'] then joined stack.dropLast ++ ['/']
        else joined stack ++ '/' :: final p := by
  rw [clean_eq_normal]
  by_cases hEmpty : p = []
  · subst hEmpty
    rfl
  rw [if_neg hEmpty, normal, rebuild]
  by_cases hAbsolute : isAbsolute p = true
  · rw [if_pos hAbsolute, if_pos hAbsolute, segments_eq p, settled_concat]
  · rw [if_neg hAbsolute, if_neg hAbsolute]

end PathJail.Path
