import PathJail.Proofs.Text.Order
import PathJail.Text.Lossy

/-!
# What bytes show as text

The replacement character stands for what is no UTF-8 and for nothing else: text is shown as it is.
A byte below `0x80` is shown wherever it stands, since no character of several bytes has one, and
what was begun in front of it is broken off. So a line break in a name shows as a line break,
whatever bytes there are around it.

* `lossyFrom_char` — one character in UTF-8.
* `lossy_bytes`    — text in UTF-8 shows as it is.
* `feed_of_lt`     — a byte below `0x80`, whatever has been read.
* `mem_lossy`      — all bytes: those below `0x80` show as their characters.
-/

namespace PathJail.Text

variable {b : UInt8} {rest raw : List UInt8} {begun : Begun}

-- ---------------------------------------------------------------------------
-- The machine
-- ---------------------------------------------------------------------------

/-- A byte below `0x80` is a character. -/
theorem start_of_lt (h : b.toNat < 0x80) : start b = ([Char.ofNat b.toNat], none) := if_pos h

/-- The first of two bytes. -/
theorem start_two (h : 0xC2 ≤ b.toNat ∧ b.toNat < 0xE0) :
    start b = ([], some ⟨b.toNat - 0xC0, 0x80, 0xBF, 0, Nat.le_refl _⟩) := by
  rw [start, if_neg (by omega), if_neg (by omega), if_pos h.2]

/-- The first of three bytes. -/
theorem start_three (h : 0xE0 ≤ b.toNat ∧ b.toNat < 0xF0) :
    ∃ begun, start b = ([], some begun) ∧ begun.value = b.toNat - 0xE0 ∧ begun.more = 1 ∧
      begun.low = (if b.toNat = 0xE0 then 0xA0 else 0x80) ∧
      begun.high = if b.toNat = 0xED then 0x9F else 0xBF := by
  refine ⟨⟨b.toNat - 0xE0, if b.toNat = 0xE0 then 0xA0 else 0x80,
    if b.toNat = 0xED then 0x9F else 0xBF, 1, by split <;> decide⟩, ?_, rfl, rfl, rfl, rfl⟩
  rw [start, if_neg (by omega), if_neg (by omega), if_neg (by omega), if_pos h.2]

/-- The first of four bytes. -/
theorem start_four (h : 0xF0 ≤ b.toNat ∧ b.toNat < 0xF5) :
    ∃ begun, start b = ([], some begun) ∧ begun.value = b.toNat - 0xF0 ∧ begun.more = 2 ∧
      begun.low = (if b.toNat = 0xF0 then 0x90 else 0x80) ∧
      begun.high = if b.toNat = 0xF4 then 0x8F else 0xBF := by
  refine ⟨⟨b.toNat - 0xF0, if b.toNat = 0xF0 then 0x90 else 0x80,
    if b.toNat = 0xF4 then 0x8F else 0xBF, 2, by split <;> decide⟩, ?_, rfl, rfl, rfl, rfl⟩
  rw [start, if_neg (by omega), if_neg (by omega), if_neg (by omega), if_neg (by omega), if_pos h.2]

/-- A first byte that others follow shows nothing yet. -/
theorem lossyFrom_start (h : start b = ([], some begun)) :
    lossyFrom none (b :: rest) = lossyFrom (some begun) rest := by
  rw [lossyFrom, feed, h]
  rfl

/-- A later byte that others follow. -/
theorem lossyFrom_later {more : Nat} (hMore : begun.more = more + 1)
    (hRange : begun.low ≤ b.toNat ∧ b.toNat ≤ begun.high) :
    lossyFrom (some begun) (b :: rest) = lossyFrom
      (some ⟨begun.value * 64 + (b.toNat - 0x80), 0x80, 0xBF, more, Nat.le_refl _⟩) rest := by
  rw [lossyFrom, feed, if_pos hRange, hMore]
  rfl

/-- The byte that ends a character. -/
theorem lossyFrom_last (hMore : begun.more = 0)
    (hRange : begun.low ≤ b.toNat ∧ b.toNat ≤ begun.high) :
    lossyFrom (some begun) (b :: rest) =
      Char.ofNat (begun.value * 64 + (b.toNat - 0x80)) :: lossyFrom none rest := by
  rw [lossyFrom, feed, if_pos hRange, hMore]
  rfl

-- ---------------------------------------------------------------------------
-- Text in UTF-8
-- ---------------------------------------------------------------------------

/-- The bound as a numeral, which arithmetic can use. -/
theorem toNat_ofNat_byte {n : Nat} (h : n < 256) : (UInt8.ofNat n).toNat = n :=
  UInt8.toNat_ofNat_of_lt' h

/-- One character in UTF-8 is shown as it is. One case for each length: the first byte tells it, and
the digits to the base 64 come to the character's number again. -/
theorem lossyFrom_char (c : Char) (rest : List UInt8) :
    lossyFrom none (String.utf8EncodeChar c ++ rest) = c :: lossyFrom none rest := by
  have hValid := c.valid
  simp only [UInt32.isValidChar, Nat.isValidChar] at hValid
  have hSame {n : Nat} (h : n = c.val.toNat) : Char.ofNat n = c := by
    rw [h]
    exact Char.ofNat_toNat c
  fun_cases String.utf8EncodeChar c with
  | case1 v h =>
    have hFirst := toNat_ofNat_byte (n := v) (by omega)
    rw [List.singleton_append, lossyFrom, feed, start_of_lt (by omega), hFirst, hSame rfl]
    rfl
  | case2 v h1 h2 =>
    have hFirst := toNat_ofNat_byte (n := v / 64 % 32 + 192) (by omega)
    have hLast := toNat_ofNat_byte (n := v % 64 + 128) (by omega)
    simp only [List.cons_append, List.nil_append]
    rw [lossyFrom_start (start_two (by omega)), lossyFrom_last rfl (by dsimp only; omega), hSame]
    dsimp only
    omega
  | case3 v h1 h2 h3 =>
    have hFirst := toNat_ofNat_byte (n := v / 4096 % 16 + 224) (by omega)
    have hSecond := toNat_ofNat_byte (n := v / 64 % 64 + 128) (by omega)
    have hLast := toNat_ofNat_byte (n := v % 64 + 128) (by omega)
    obtain ⟨begun, hStart, hValue, hMore, hLow, hHigh⟩ :=
      start_three (b := UInt8.ofNat (v / 4096 % 16 + 224)) (by omega)
    -- a number below `0x800` would have two bytes, and a surrogate is no character
    have hRange : begun.low ≤ (UInt8.ofNat (v / 64 % 64 + 128)).toNat ∧
        (UInt8.ofNat (v / 64 % 64 + 128)).toNat ≤ begun.high := by
      rw [hLow, hHigh]
      constructor <;> split <;> omega
    simp only [List.cons_append, List.nil_append]
    rw [lossyFrom_start hStart, lossyFrom_later hMore hRange,
      lossyFrom_last rfl (by dsimp only; omega), hSame]
    dsimp only
    omega
  | case4 v h1 h2 h3 =>
    have hFirst := toNat_ofNat_byte (n := v / 262144 % 8 + 240) (by omega)
    have hSecond := toNat_ofNat_byte (n := v / 4096 % 64 + 128) (by omega)
    have hThird := toNat_ofNat_byte (n := v / 64 % 64 + 128) (by omega)
    have hLast := toNat_ofNat_byte (n := v % 64 + 128) (by omega)
    obtain ⟨begun, hStart, hValue, hMore, hLow, hHigh⟩ :=
      start_four (b := UInt8.ofNat (v / 262144 % 8 + 240)) (by omega)
    -- a number below `0x10000` would have three bytes, and the last character is `U+10FFFF`
    have hRange : begun.low ≤ (UInt8.ofNat (v / 4096 % 64 + 128)).toNat ∧
        (UInt8.ofNat (v / 4096 % 64 + 128)).toNat ≤ begun.high := by
      rw [hLow, hHigh]
      constructor <;> split <;> omega
    simp only [List.cons_append, List.nil_append]
    rw [lossyFrom_start hStart, lossyFrom_later hMore hRange,
      lossyFrom_later rfl (by dsimp only; omega), lossyFrom_last rfl (by dsimp only; omega), hSame]
    dsimp only
    omega

/-- **Text in UTF-8 shows as it is.** -/
theorem lossy_bytes (t : Text) : lossy (bytes t) = t := by
  induction t with
  | nil => rfl
  | cons c t ih => rw [lossy, bytes_cons, lossyFrom_char, ← lossy, ih]

-- ---------------------------------------------------------------------------
-- Single bytes
-- ---------------------------------------------------------------------------

/-- **One byte.** A byte below `0x80` shows as its character, whatever has been read. -/
theorem feed_of_lt (h : b.toNat < 0x80) (begun : Option Begun) :
    Char.ofNat b.toNat ∈ (feed b begun).1 := by
  cases begun with
  | none =>
    rw [feed, start_of_lt h]
    exact List.mem_singleton.mpr rfl
  | some begun =>
    have hOther : ¬ (begun.low ≤ b.toNat ∧ b.toNat ≤ begun.high) := by
      have hLate := begun.late
      omega
    rw [feed, if_neg hOther, start_of_lt h]
    exact List.mem_cons_of_mem _ (List.mem_singleton.mpr rfl)

/-- Induction on the bytes, for all that can have been read before. -/
theorem mem_lossyFrom (hb : b ∈ raw) (h : b.toNat < 0x80) (begun : Option Begun) :
    Char.ofNat b.toNat ∈ lossyFrom begun raw := by
  induction raw generalizing begun with
  | nil => cases hb
  | cons first rest ih =>
    rw [lossyFrom, List.mem_append]
    rcases List.mem_cons.mp hb with rfl | hLater
    · exact Or.inl (feed_of_lt h begun)
    · exact Or.inr (ih hLater _)

/-- **All bytes.** Those below `0x80` show as their characters. -/
theorem mem_lossy (hb : b ∈ raw) (h : b.toNat < 0x80) : Char.ofNat b.toNat ∈ lossy raw :=
  mem_lossyFrom hb h none

-- the first two bytes of a character are one piece, and `0xFF` is another
example : lossy [0x61, 0x0A, 0x62, 0xE2, 0x82, 0xFF] = "a\nb\uFFFD\uFFFD".toList := by decide

end PathJail.Text
