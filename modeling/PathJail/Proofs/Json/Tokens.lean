import Mathlib.Data.List.TakeWhile
import PathJail.Json.Basic
import PathJail.Json.Reader

/-!
# The tokens of a JSON value

A JSON value is a sequence of tokens: brackets, commas, colons, strings, numerals and words. The
reader lets any blanks stand between them and at both ends, so what it reads is best said about
tokens, and not about one way to space them.

* `tokens`          — the tokens of a value; without blanks they are its compact form
  (`compact_eq_flatten`).
* `Spaced`          — a text that has given tokens, blanks between them.
* `Delimited`       — what may stand behind a value.
* `next_item`, `next_close` — what the reader of a list finds at an item, and at the end.
-/

namespace PathJail.Json

-- ---------------------------------------------------------------------------
-- Tokens
-- ---------------------------------------------------------------------------

/-- Items with commas between them; where the first of them goes on a list, with one before it. -/
def separated : Bool → List (List Text) → List Text
  | _, [] => []
  | true, item :: items => item ++ separated false items
  | false, item :: items => [','] :: (item ++ separated false items)

mutual

/-- The tokens of a value. -/
def tokens : Json → List Text
  | .array items => ['['] :: (separated true (tokensOfItems items) ++ [[']']])
  | .object members => ['{'] :: (separated true (tokensOfMembers members) ++ [['}']])
  | other => [other.compact]

def tokensOfItems : List Json → List (List Text)
  | [] => []
  | item :: items => item.tokens :: tokensOfItems items

def tokensOfMembers : List (String × Json) → List (List Text)
  | [] => []
  | (key, value) :: members =>
    (quote key.toList :: [':'] :: value.tokens) :: tokensOfMembers members

end

theorem flatten_separated (items : List (List Text)) :
    (separated true items).flatten = [','].intercalate (items.map List.flatten) := by
  induction items with
  | nil => rfl
  | cons item items ih =>
    cases items with
    | nil => simp [separated]
    | cons second items =>
      have hMore : separated false (second :: items) =
          [','] :: separated true (second :: items) := rfl
      rw [separated, hMore, List.flatten_append, List.flatten_cons, ih]
      simp [List.intercalate_cons_cons]

mutual

/-- The compact form of a value is its tokens, one right after the other. -/
theorem compact_eq_flatten : ∀ j : Json, j.compact = j.tokens.flatten
  | .null | .bool _ | .number _ | .string _ => by simp [tokens]
  | .array items => by
    simp [tokens, compact, flatten_separated, compactItems_eq items]
  | .object members => by
    simp [tokens, compact, flatten_separated, compactMembers_eq members]

/-- The items of an array, without blanks, by their tokens. -/
theorem compactItems_eq :
    ∀ items, compactItems items = (tokensOfItems items).map List.flatten
  | [] => rfl
  | item :: items => by
    rw [compactItems, tokensOfItems, List.map_cons, compact_eq_flatten item, compactItems_eq items]

/-- The members of an object, without blanks, by their tokens. -/
theorem compactMembers_eq :
    ∀ members, compactMembers members = (tokensOfMembers members).map List.flatten
  | [] => rfl
  | (key, value) :: members => by
    rw [compactMembers, tokensOfMembers, List.map_cons, compact_eq_flatten value,
      compactMembers_eq members]
    simp

end

-- ---------------------------------------------------------------------------
-- Blanks between tokens
-- ---------------------------------------------------------------------------

/-- A text that has the given tokens in their order, with any blanks before, between and behind
them. -/
inductive Spaced : List Text → Text → Prop
  | nil {gap : Text} (blank : ∀ c ∈ gap, isBlank c = true) : Spaced [] gap
  | cons {gap token t : Text} {tokens : List Text} (blank : ∀ c ∈ gap, isBlank c = true)
      (more : Spaced tokens t) : Spaced (token :: tokens) (gap ++ (token ++ t))

/-- No blank need stand before a token. -/
theorem Spaced.behind (token : Text) {t : Text} {tokens : List Text} (h : Spaced tokens t) :
    Spaced (token :: tokens) (token ++ t) := by
  have hNone : ∀ c ∈ ([] : Text), isBlank c = true := by simp
  exact .cons hNone h

/-- Tokens with the same blanks before each of them and at the end. -/
theorem spaced_flatMap {gap : Text} (hBlank : ∀ c ∈ gap, isBlank c = true) (tokens : List Text) :
    Spaced tokens (tokens.flatMap (gap ++ ·) ++ gap) := by
  induction tokens with
  | nil => exact .nil hBlank
  | cons token tokens ih =>
    rw [List.flatMap_cons, List.append_assoc, List.append_assoc]
    exact .cons hBlank ih

/-- No blanks at all are blanks enough. -/
theorem spaced_flatten (tokens : List Text) : Spaced tokens tokens.flatten := by
  have hNone : ∀ c ∈ ([] : Text), isBlank c = true := by simp
  simpa [List.flatMap_id] using spaced_flatMap hNone tokens

/-- Behind its blanks a text begins with its first token. -/
theorem Spaced.skipBlanks {c : Char} {token t : Text} {tokens : List Text}
    (h : Spaced ((c :: token) :: tokens) t) (hc : isBlank c = false) :
    ∃ u, Json.skipBlanks t = c :: (token ++ u) ∧ Spaced tokens u := by
  cases h with
  | @cons gap _ u _ blank more =>
    refine ⟨u, ?_, more⟩
    rw [Json.skipBlanks, List.dropWhile_append_of_pos blank, List.cons_append,
      List.dropWhile_cons_of_neg (by simp [hc])]

/-- Behind the last token there are blanks only. -/
theorem Spaced.skipBlanks_nil {t : Text} (h : Spaced [] t) : Json.skipBlanks t = [] := by
  cases h with
  | nil blank => exact List.dropWhile_eq_nil_iff.mpr blank

/-- Tokens that stand behind a whole value: none, or a comma or closing bracket first. -/
def Delimited (tokens : List Text) : Prop :=
  ∀ token ∈ tokens.head?, token = [','] ∨ token = [']'] ∨ token = ['}']

/-- The text behind a whole value does not go on a numeral. -/
theorem Spaced.ends_numeral {t : Text} {tokens : List Text} (h : Spaced tokens t)
    (hDelimited : Delimited tokens) :
    ∀ c ∈ t.head?, c.isDigit = false ∧ c ≠ '.' ∧ c ≠ 'e' ∧ c ≠ 'E' := by
  have hBlank : ∀ c, isBlank c = true → c.isDigit = false ∧ c ≠ '.' ∧ c ≠ 'e' ∧ c ≠ 'E' := by
    intro c hc
    simp only [isBlank, Bool.or_eq_true, decide_eq_true_eq] at hc
    rcases hc with ((rfl | rfl) | rfl) | rfl <;> decide
  intro c hc
  cases h with
  | nil blank => exact hBlank c (blank c (List.mem_of_mem_head? hc))
  | @cons gap token u _ blank _ =>
    cases gap with
    | cons d gap =>
      obtain rfl : d = c := by simpa using hc
      exact hBlank d (blank d (by simp))
    | nil =>
      rcases hDelimited token (by simp) with rfl | rfl | rfl <;>
      · obtain rfl := Option.some_inj.mp hc
        decide

/-- Behind an item a comma stands, or what follows the list. -/
theorem delimited_separated {items : List (List Text)} {tokens : List Text}
    (h : Delimited tokens) : Delimited (separated false items ++ tokens) := by
  cases items with
  | nil => exact h
  | cons item items => intro token hToken; simp_all [separated]

-- ---------------------------------------------------------------------------
-- Separators
-- ---------------------------------------------------------------------------

/-- At the closing bracket a list ends. -/
theorem next_close {closing : Char} {t : Text} {tokens : List Text} (isFirst : Bool)
    (h : Spaced ([closing] :: tokens) t) (hClosing : isBlank closing = false) :
    ∃ rest : Rest t, next closing isFirst t = .ok (.close rest) ∧ Spaced tokens rest.val := by
  obtain ⟨u, hSkip, hMore⟩ := h.skipBlanks hClosing
  unfold next
  split
  · next hNil => simp [hSkip] at hNil
  · next c rest hCons =>
    obtain ⟨rfl, rfl⟩ : c = closing ∧ rest = u := by simpa [hSkip, eq_comm] using hCons
    exact ⟨_, if_pos rfl, hMore⟩

/-- At an item the list goes on with it, the comma before it read if there must be one. -/
theorem next_item {closing c : Char} {isFirst : Bool} {token t : Text}
    {item tokens : List Text} {items : List (List Text)}
    (h : Spaced (separated isFirst (((c :: token) :: item) :: items) ++ tokens) t)
    (hc : isBlank c = false) (hItem : c ≠ closing) (hClosing : closing ≠ ',') :
    ∃ start u, next closing isFirst t = .ok (.item start) ∧ start.val = c :: (token ++ u) ∧
      Spaced (item ++ (separated false items ++ tokens)) u := by
  cases isFirst with
  | true =>
    obtain ⟨u, hSkip, hMore⟩ := h.skipBlanks hc
    unfold next
    split
    · next hNil => simp [hSkip] at hNil
    · next d rest hCons =>
      obtain ⟨rfl, rfl⟩ : d = c ∧ rest = token ++ u := by simpa [hSkip, eq_comm] using hCons
      exact ⟨_, u, by rw [if_neg hItem, if_pos rfl], rfl, by simpa using hMore⟩
  | false =>
    obtain ⟨v, hComma, hRest⟩ := h.skipBlanks (by decide)
    obtain ⟨u, hSkip, hMore⟩ := hRest.skipBlanks hc
    unfold next
    split
    · next hNil => simp [hComma] at hNil
    · next d rest hCons =>
      obtain ⟨rfl, rfl⟩ : d = ',' ∧ rest = v := by simpa [hComma, eq_comm] using hCons
      rw [if_neg hClosing.symm, if_neg Bool.false_ne_true, if_pos rfl]
      simp only [hSkip, List.head?_cons, if_neg hItem]
      exact ⟨_, u, rfl, rfl, by simpa using hMore⟩

end PathJail.Json
