import PathJail.Proofs.Text.Order

/-!
# Where a text can be cut

A number of bytes at the front of a text need not end where a character does. Going back from such a
place byte by byte one comes to the last boundary before it, and what stands in front of that is the
longest beginning of the text that has room in so many bytes.

* `isBoundary_iff`      — the boundaries are the lengths of the beginnings of the text.
* `isBoundary_iff_byte` — a boundary is told by the byte behind it, as in UTF-8.
* `le_cutAt`            — the search for a boundary passes over none.
* `cut_longest`         — what stands in front of the boundary that it finds.
-/

namespace PathJail.Text

variable {t : Text} {n : Nat}

-- ---------------------------------------------------------------------------
-- Beginnings of a text
-- ---------------------------------------------------------------------------

/-- A text with a character in front is longer than the rest of it, by that character. -/
theorem exists_byteLength_cons (c : Char) (t : Text) : ∃ size, byteLength (c :: t) = size + 1 ∧
    c.utf8Size ≤ size + 1 ∧ size + 1 - c.utf8Size = byteLength t := by
  have hSize := c.utf8Size_pos
  refine ⟨byteLength (c :: t) - 1, ?_⟩
  rw [byteLength_cons]
  omega

/-- As many bytes as the first of two texts has are that text. -/
theorem takeBytes_append (a b : Text) : takeBytes (byteLength a) (a ++ b) = a := by
  induction a with
  | nil => rw [byteLength_nil, takeBytes]
  | cons c a ih =>
    obtain ⟨size, hSize, -, hRest⟩ := exists_byteLength_cons c a
    rw [List.cons_append, hSize, takeBytes, hRest, ih]

/-- Bytes are taken from the front. -/
theorem takeBytes_isPrefix (n : Nat) (t : Text) : takeBytes n t <+: t := by
  induction t generalizing n with
  | nil => cases n <;> exact List.prefix_refl []
  | cons c t ih =>
    cases n with
    | zero => exact List.nil_prefix
    | succ n => exact List.cons_prefix_cons.mpr ⟨rfl, ih _⟩

/-- Where one text ends and another begins, there is a boundary. -/
theorem isBoundary_append (a b : Text) : isBoundary (byteLength a) (a ++ b) = true := by
  induction a with
  | nil => simp [isBoundary]
  | cons c a ih =>
    obtain ⟨size, hSize, hFits, hRest⟩ := exists_byteLength_cons c a
    rw [List.cons_append, hSize, isBoundary, hRest, ih, Bool.and_true]
    exact decide_eq_true hFits

/-- At a boundary a text falls into two. -/
theorem exists_append_of_isBoundary (h : isBoundary n t = true) :
    ∃ a b, t = a ++ b ∧ byteLength a = n := by
  induction t generalizing n with
  | nil =>
    cases n with
    | zero => exact ⟨[], [], rfl, rfl⟩
    | succ n => cases h
  | cons c t ih =>
    cases n with
    | zero => exact ⟨[], c :: t, rfl, rfl⟩
    | succ n =>
      rw [isBoundary, Bool.and_eq_true, decide_eq_true_eq] at h
      obtain ⟨hFits, hRest⟩ := h
      obtain ⟨a, b, rfl, hLength⟩ := ih hRest
      refine ⟨c :: a, b, rfl, ?_⟩
      rw [byteLength_cons, hLength]
      omega

/-- The boundaries are the lengths of the beginnings of the text. -/
theorem isBoundary_iff : isBoundary n t = true ↔ ∃ a b, t = a ++ b ∧ byteLength a = n := by
  constructor
  · exact exists_append_of_isBoundary
  · rintro ⟨a, b, rfl, rfl⟩
    exact isBoundary_append a b

-- ---------------------------------------------------------------------------
-- Boundaries among the bytes
-- ---------------------------------------------------------------------------

/-- The byte goes on with a character that an earlier one began. -/
def continues (b : UInt8) : Bool := 0x80 ≤ b && b < 0xC0

/-- The range of the bytes that go on with a character, in numbers. -/
theorem continues_ofNat {n : Nat} (h : n < 256) :
    continues (UInt8.ofNat n) = (decide (128 ≤ n) && decide (n < 192)) := by
  simp only [continues, UInt8.le_iff_toNat_le, UInt8.lt_iff_toNat_lt, UInt8.toNat_ofNat']
  rw [Nat.mod_eq_of_lt h]
  rfl

/-- A byte outside that range begins a character. -/
theorem continues_of_outside {n : Nat} (h : n < 128 ∨ 192 ≤ n) (hByte : n < 256) :
    continues (UInt8.ofNat n) = false := by
  rw [continues_ofNat hByte, Bool.and_eq_false_iff, decide_eq_false_iff_not,
    decide_eq_false_iff_not]
  omega

/-- A digit to the base 64 behind the mark of a later byte. -/
theorem continues_digit (n : Nat) : continues (UInt8.ofNat (n % 64 + 128)) = true := by
  rw [continues_ofNat (by omega), Bool.and_eq_true, decide_eq_true_eq, decide_eq_true_eq]
  omega

/-- Of the bytes of a character, all but the first go on with it. -/
theorem exists_utf8EncodeChar (c : Char) : ∃ first later, String.utf8EncodeChar c = first :: later ∧
    continues first = false ∧ ∀ b ∈ later, continues b = true := by
  have hBound : c.val.toNat < 0x110000 := by
    have hValid := c.valid
    simp only [UInt32.isValidChar, Nat.isValidChar] at hValid
    omega
  -- one case for each length; the first byte has a mark that tells the length
  fun_cases String.utf8EncodeChar c
  all_goals
    refine ⟨_, _, rfl, continues_of_outside (by omega) (by omega), ?_⟩
    simp only [List.mem_cons, List.not_mem_nil, or_false, forall_eq_or_imp, forall_eq,
      continues_digit, and_self, false_imp_iff, implies_true]

/-- The length in bytes is the number of the bytes. -/
theorem length_bytes (t : Text) : (bytes t).length = byteLength t := by
  induction t with
  | nil => rfl
  | cons c t ih =>
    rw [bytes_cons, List.length_append, String.length_utf8EncodeChar, ih, byteLength_cons]

theorem bytes_append (a b : Text) : bytes (a ++ b) = bytes a ++ bytes b := List.flatMap_append

/-- **A boundary is told by the byte behind it.** Induction on the text: a place in the bytes of the
first character is a boundary in front of them only, and any other is a place of the rest. -/
theorem isBoundary_iff_byte {b : UInt8} (h : (bytes t)[n]? = some b) :
    isBoundary n t = true ↔ continues b = false := by
  induction t generalizing n with
  | nil => cases h
  | cons c t ih =>
    obtain ⟨first, later, hEncoded, hFirst, hLater⟩ := exists_utf8EncodeChar c
    have hSize : later.length + 1 = c.utf8Size := by
      rw [← String.length_utf8EncodeChar, hEncoded, List.length_cons]
    rw [bytes_cons, hEncoded] at h
    cases n with
    | zero =>
      obtain rfl : first = b := Option.some.inj h
      simp [isBoundary, hFirst]
    | succ n =>
      rw [List.cons_append, List.getElem?_cons_succ] at h
      by_cases hInside : n < later.length
      · rw [List.getElem?_append_left hInside] at h
        have hShort : ¬ c.utf8Size ≤ n + 1 := by omega
        simp [isBoundary, hShort, hLater b (List.mem_of_getElem? h)]
      · have hFits : c.utf8Size ≤ n + 1 := by omega
        have hPlace : n - later.length = n + 1 - c.utf8Size := by omega
        rw [List.getElem?_append_right (by omega), hPlace] at h
        rw [isBoundary, decide_eq_true hFits, Bool.true_and]
        exact ih h

-- ---------------------------------------------------------------------------
-- The search for a boundary
-- ---------------------------------------------------------------------------

theorem cutAt_le (t : Text) (n : Nat) : cutAt t n ≤ n := by
  induction n with
  | zero => exact Nat.le_refl 0
  | succ n ih =>
    rw [cutAt]
    split <;> omega

/-- The search ends at a boundary; the front of the text is one. -/
theorem isBoundary_cutAt (t : Text) (n : Nat) : isBoundary (cutAt t n) t = true := by
  induction n with
  | zero => simp [cutAt, isBoundary]
  | succ n ih =>
    rw [cutAt]
    split
    · assumption
    · exact ih

/-- The search passes over no boundary. -/
theorem le_cutAt {k : Nat} (hBoundary : isBoundary k t = true) (h : k ≤ n) : k ≤ cutAt t n := by
  induction n with
  | zero => exact h
  | succ n ih =>
    rw [cutAt]
    split
    · exact h
    · rename_i hInside
      have hNot : k ≠ n + 1 := by
        rintro rfl
        exact hInside hBoundary
      exact ih (by omega)

/-- **What stands in front of the boundary that the search finds** is the longest beginning of the
text that has room in `n` bytes. -/
theorem cut_longest (t : Text) (n : Nat) : ∃ left, t = takeBytes (cutAt t n) t ++ left ∧
    byteLength (takeBytes (cutAt t n) t) = cutAt t n ∧
    ∀ other, other <+: t → byteLength other ≤ n → other <+: takeBytes (cutAt t n) t := by
  obtain ⟨kept, left, hSplit, hKept⟩ := isBoundary_iff.mp (isBoundary_cutAt t n)
  have hTaken := takeBytes_append kept left
  rw [← hSplit, hKept] at hTaken
  refine ⟨left, by rw [hTaken, ← hSplit], by rw [hTaken, hKept], ?_⟩
  rintro other ⟨rest, hOther⟩ hRoom
  have hBoundary := isBoundary_append other rest
  rw [hOther] at hBoundary
  have hShorter := le_cutAt hBoundary hRoom
  rw [← hKept] at hShorter
  rw [hTaken]
  -- two beginnings of one text: the shorter one begins the longer one
  rcases List.prefix_or_prefix_of_prefix ⟨rest, hOther⟩ ⟨left, hSplit.symm⟩ with hBefore | hAfter
  · exact hBefore
  · obtain ⟨more, rfl⟩ := hAfter
    rw [byteLength_append] at hShorter
    obtain rfl : more = [] := by
      have hLength := length_le_byteLength more
      exact List.length_eq_zero_iff.mp (by omega)
    exact ⟨[], by simp⟩

end PathJail.Text
