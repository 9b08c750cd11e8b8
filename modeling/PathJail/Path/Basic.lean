import PathJail.Text.Basic

/-!
# Paths as text

The parts of a path that can be read off its text alone: trailing slashes, the directory and the
name at the last slash, and whether one path lies below another. Nothing here looks at `.` or `..`.

* `trimSlash`, `trimSlashes` — drop one, or every, trailing slash; `/` itself stays.
* `splitLast`                — the text before and after the last slash.
* `parent`, `basename`       — the two halves of a path once its trailing slashes are gone.
* `below?`                   — what is left of a path after a directory and before a slash.
-/

namespace PathJail.Path

/-! ## Slashes at the end -/

/-- Drops a single trailing slash, keeping the root. -/
def trimSlash (p : Text) : Text :=
  if 1 < p.length ∧ p.getLast? = some '/' then p.dropLast else p

/-- Drops every trailing slash, the root's too. -/
def bare (p : Text) : Text := (p.reverse.dropWhile (· = '/')).reverse

/-- Drops every trailing slash, keeping the root. -/
def trimSlashes (p : Text) : Text := if bare p = [] then p.take 1 else bare p

/-! ## The last slash -/

/-- The text before and after the last slash. -/
def splitLast : Text → Option (Text × Text)
  | [] => none
  | c :: cs =>
    match splitLast cs with
    | some (dir, name) => some (c :: dir, name)
    | none => if c = '/' then some ([], cs) else none

theorem splitLast_eq_none_iff {p : Text} : splitLast p = none ↔ '/' ∉ p := by
  induction p with
  | nil => simp [splitLast]
  | cons c cs ih =>
    rw [splitLast]
    split
    · rename_i dir name h
      have hcs : '/' ∈ cs := by simpa [h] using ih
      simp [hcs]
    · rename_i h
      split
      · rename_i hc
        simp [hc]
      · rename_i hc
        simp only [List.mem_cons, not_or, true_iff]
        exact ⟨fun h => hc h.symm, ih.mp h⟩

theorem append_of_splitLast {p dir name : Text} (h : splitLast p = some (dir, name)) :
    p = dir ++ '/' :: name ∧ '/' ∉ name := by
  induction p generalizing dir name with
  | nil => simp [splitLast] at h
  | cons c cs ih =>
    rw [splitLast] at h
    split at h
    · rename_i dir' name' h'
      simp only [Option.some.injEq, Prod.mk.injEq] at h
      obtain ⟨rfl, rfl⟩ := h
      obtain ⟨hcs, hname⟩ := ih h'
      exact ⟨by rw [hcs]; rfl, hname⟩
    · rename_i h'
      split at h
      · rename_i hc
        simp only [Option.some.injEq, Prod.mk.injEq] at h
        obtain ⟨rfl, rfl⟩ := h
        exact ⟨by rw [hc]; rfl, splitLast_eq_none_iff.mp h'⟩
      · simp at h

/-- The directory part of a path, trailing slashes aside: `/` for what lies right under the root,
and nothing for the root or for a path without a slash. -/
def parent (p : Text) : Option Text :=
  match splitLast (bare p) with
  | none => none
  | some ([], _) => some ['/']
  | some (dir, _) => some dir

/-- The last name of a path, trailing slashes aside. -/
def basename (p : Text) : Text :=
  match splitLast (bare p) with
  | none => bare p
  | some (_, name) => name

/-! ## Position -/

/-- Whether a path begins with a slash. -/
def isAbsolute (p : Text) : Bool := p.head? = some '/'

/-- What is left of `p` after `dir`, if it is empty or begins with a slash: `some []` for `dir`
itself, `some ('/' :: …)` for what lies below it. -/
def below? (dir p : Text) : Option Text :=
  match Text.after? dir p with
  | some [] => some []
  | some ('/' :: rest) => some ('/' :: rest)
  | _ => none

/-- The names between the slashes of a path, empty ones included. -/
def segments (p : Text) : List Text := p.splitOn '/'

end PathJail.Path
