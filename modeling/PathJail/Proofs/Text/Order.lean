import PathJail.Text.Basic

/-!
# The order of names

Names are compared character by character, and UTF-8 was made so that comparing the bytes comes to
the same: the first byte of a character tells its length, longer characters have larger ones, and
among characters of one length the bytes are digits, the most significant first.

* `bytes`              — a text in UTF-8.
* `bytes_lt_bytes_iff` — the order of the characters is that of the bytes.
* `pairwise_ascending` — what `ascending` makes of a list is in that order, without repetition.
-/

namespace PathJail.Text

-- ---------------------------------------------------------------------------
-- Characters and bytes
-- ---------------------------------------------------------------------------

/-- A text in UTF-8. -/
def bytes (t : Text) : List UInt8 := t.flatMap String.utf8EncodeChar

theorem bytes_cons (c : Char) (t : Text) : bytes (c :: t) = String.utf8EncodeChar c ++ bytes t :=
  List.flatMap_cons

/-- A smaller character makes a smaller text of bytes, whatever stands behind it: the two encodings
differ at a byte that both have. -/
theorem utf8EncodeChar_append_lt {c d : Char} (h : c < d) (s t : List UInt8) :
    String.utf8EncodeChar c ++ s < String.utf8EncodeChar d ++ t := by
  have hLt : c.val.toNat < d.val.toNat := h
  have hBound : d.val.toNat < 0x110000 := by
    have hValid := d.valid
    simp only [UInt32.isValidChar, Nat.isValidChar] at hValid
    omega
  -- one case for each two lengths; the bytes are digits to the base 64 behind a mark
  fun_cases String.utf8EncodeChar c <;> fun_cases String.utf8EncodeChar d
  all_goals
    simp only [List.cons_append, List.nil_append, List.cons_lt_cons_iff, UInt8.lt_iff_toNat_lt,
      ← UInt8.toNat_inj, UInt8.toNat_ofNat']
    simp (disch := omega) only [Nat.mod_eq_of_lt]
    omega

/-- What is the same in front does not matter to the order. -/
theorem append_lt_append (u : List UInt8) {s t : List UInt8} (h : s < t) : u ++ s < u ++ t := by
  induction u with
  | nil => exact h
  | cons b u ih => exact List.cons_lt_cons_self.mpr ih

/-- The order of the characters is kept by their bytes. -/
theorem bytes_lt_bytes {a b : Text} (h : a < b) : bytes a < bytes b := by
  induction h with
  | @nil d b =>
    obtain ⟨first, rest, hEncoded⟩ :=
      List.exists_cons_of_ne_nil (String.utf8EncodeChar_ne_nil (c := d))
    rw [bytes_cons, hEncoded]
    exact List.nil_lt_cons first _
  | rel hChar =>
    rw [bytes_cons, bytes_cons]
    exact utf8EncodeChar_append_lt hChar _ _
  | @cons c a b hRest ih =>
    rw [bytes_cons, bytes_cons]
    exact append_lt_append _ ih

/-- Of two texts one is the smaller one, or they are the same. -/
theorem lt_or_eq_or_gt (a b : Text) : a < b ∨ a = b ∨ b < a := by
  by_cases h : b < a
  · exact Or.inr (Or.inr h)
  · exact (List.le_iff_lt_or_eq.mp h).imp_right Or.inl

/-- The order of texts is that of their bytes in UTF-8. -/
theorem bytes_lt_bytes_iff {a b : Text} : bytes a < bytes b ↔ a < b := by
  refine ⟨fun h => ?_, bytes_lt_bytes⟩
  rcases lt_or_eq_or_gt a b with hLt | rfl | hGt
  · exact hLt
  · exact absurd h (List.lt_irrefl _)
  · exact absurd h (List.lt_asymm (bytes_lt_bytes hGt))

-- ---------------------------------------------------------------------------
-- Ascending names
-- ---------------------------------------------------------------------------

/-- Insertion keeps a list of names ascending. -/
theorem pairwise_insertName (n : Text) {names : List Text} (h : names.Pairwise (· < ·)) :
    (insertName n names).Pairwise (· < ·) := by
  induction names with
  | nil => exact List.pairwise_singleton _ n
  | cons m names ih =>
    obtain ⟨hFirst, hRest⟩ := List.pairwise_cons.mp h
    rw [insertName]
    split
    · rename_i hLt
      refine List.pairwise_cons.mpr ⟨fun k hk => ?_, h⟩
      rcases List.mem_cons.mp hk with rfl | hk
      · exact hLt
      · exact List.lt_trans hLt (hFirst k hk)
    split
    · exact h
    · rename_i hNotLt hNe
      have hGt : m < n := ((lt_or_eq_or_gt n m).resolve_left hNotLt).resolve_left hNe
      refine List.pairwise_cons.mpr ⟨fun k hk => ?_, ih hRest⟩
      rcases mem_insertName.mp hk with rfl | hk
      · exact hGt
      · exact hFirst k hk

/-- What `ascending` makes of any list is ascending. -/
theorem pairwise_ascending (names : List Text) : (ascending names).Pairwise (· < ·) := by
  induction names with
  | nil => exact .nil
  | cons n names ih => exact pairwise_insertName n ih

end PathJail.Text
