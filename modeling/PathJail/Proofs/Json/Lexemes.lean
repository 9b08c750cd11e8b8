import PathJail.Proofs.Json.Tokens

/-!
# Strings and numerals read back

The escapes of a printed string are those that the reader knows, each giving back its character, and
the decimal digits of a number are a numeral with that value.

* `stringBody_quoted` — a printed string is read back.
* `bareHead_ofNat`    — a printed number of 64 bits is read back.
* `headOf_spaced`     — the first piece of a value, behind any blanks.
-/

namespace PathJail.Json

open Text

-- ---------------------------------------------------------------------------
-- Strings
-- ---------------------------------------------------------------------------

/-- Hexadecimal digits are read back. -/
theorem hexDigit?_digitChar : ∀ d < 16, hexDigit? d.digitChar = some d := by decide

/-- An escape by number whose two upper digits are zeros. -/
theorem escaped_number {a b : Nat} (ha : a < 16) (hb : b < 16) (t : Text) :
    ∃ h, escaped ('u' :: '0' :: '0' :: a.digitChar :: b.digitChar :: t) =
      some (Char.ofNat (16 * a + b), ⟨t, h⟩) := by
  have hZero : hexDigit? '0' = some 0 := hexDigit?_digitChar 0 (by decide)
  have hUnit : hexFour? '0' '0' a.digitChar b.digitChar = some (16 * a + b) := by
    simp [hexFour?, hZero, hexDigit?_digitChar a ha, hexDigit?_digitChar b hb, Nat.mul_comm]
  have hSmall : 16 * a + b < 0xd800 := by omega
  have hLength : t.length < ('u' :: '0' :: '0' :: a.digitChar :: b.digitChar :: t).length := by
    simp only [List.length_cons]
    omega
  refine ⟨hLength, ?_⟩
  simp [escaped, numberEscape, hexUnit, hUnit, hSmall, Rest.behind, Rest.andThen]

/-- The digits of a control character. -/
theorem hex_control {n : Nat} (h : n < 0x20) :
    hex n = if n < 0x10 then [n.digitChar] else ['1', (n % 16).digitChar] := by
  unfold hex
  rw [Nat.toDigits_eq_if (by decide)]
  split
  · rfl
  · have hOne : n / 16 = 1 := by omega
    rw [hOne]
    rfl

/-- A character is printed as itself, where the reader takes it for itself, or as an escape that
the reader resolves to it. -/
theorem escape_resolves (c : Char) :
    (escape c = [c] ∧ c ≠ '"' ∧ c ≠ '\\' ∧ ¬ c.toNat < 0x20) ∨
      ∃ e, escape c = '\\' :: e ∧
        ∀ t, ∃ h, escaped (e ++ t) = some (c, ⟨t, h⟩) := by
  by_cases hNamed : c ∈ ['"', '\\', '\x08', '\t', '\n', '\x0c', '\r']
  · right
    simp only [List.mem_cons, List.not_mem_nil, or_false] at hNamed
    rcases hNamed with rfl | rfl | rfl | rfl | rfl | rfl | rfl <;>
      exact ⟨[_], rfl, fun t => ⟨_, rfl⟩⟩
  · simp only [List.mem_cons, List.not_mem_nil, or_false, not_or] at hNamed
    obtain ⟨hQuote, hSlash, hRest⟩ := hNamed
    simp only [escape, hQuote, hSlash, hRest, if_false]
    by_cases hControl : c.toNat < 0x20
    · right
      rw [hex_control hControl]
      split
      · next hTen =>
        refine ⟨['u', '0', '0', '0', c.toNat.digitChar], rfl, fun t => ?_⟩
        have hRead := escaped_number (a := 0) (by decide) hTen t
        rw [Nat.mul_zero, Nat.zero_add, Char.ofNat_toNat] at hRead
        exact hRead
      · next hTen =>
        refine ⟨['u', '0', '0', '1', (c.toNat % 16).digitChar], by simp, fun t => ?_⟩
        have hSum : 16 * 1 + c.toNat % 16 = c.toNat := by omega
        have hRead := escaped_number (a := 1) (by decide) (Nat.mod_lt c.toNat (by decide)) t
        rw [hSum, Char.ofNat_toNat] at hRead
        exact hRead
    · left
      have hTen : ¬ c.toNat < 0x10 := by omega
      simp [hQuote, hSlash, hControl, hTen]

/-- A printed string is read back up to its closing quote. -/
theorem stringBody_quoted (s t : Text) :
    ∃ h, stringBody (s.flatMap escape ++ ['"'] ++ t) = some (s, ⟨t, h⟩) := by
  rw [List.append_assoc, List.singleton_append]
  induction s with
  | nil =>
    rw [List.flatMap_nil, List.nil_append, stringBody]
    exact ⟨_, rfl⟩
  | cons c s ih =>
    obtain ⟨hLength, hRest⟩ := ih
    rw [List.flatMap_cons, List.append_assoc]
    rcases escape_resolves c with ⟨hEscape, hQuote, hSlash, hPrintable⟩ | ⟨e, hEscape, hResolve⟩
    · rw [hEscape, List.cons_append, List.nil_append, stringBody]
      · rw [if_neg hPrintable, hRest]
        exact ⟨_, rfl⟩
      · exact hQuote
      · exact hSlash
    · obtain ⟨hShorter, hEscaped⟩ := hResolve (s.flatMap escape ++ '"' :: t)
      rw [hEscape, List.cons_append, stringBody, hEscaped]
      refine ⟨Nat.lt_trans hLength (Nat.lt_succ_of_lt hShorter), ?_⟩
      simp [hRest, Rest.behind, Rest.andThen]

-- ---------------------------------------------------------------------------
-- Numerals
-- ---------------------------------------------------------------------------

/-- A number is written in decimal digits. -/
theorem digit_of_mem_ofNat {n : Nat} {c : Char} (h : c ∈ ofNat n) : c.isDigit = true :=
  Nat.isDigit_of_mem_toDigits (by decide) (by decide) h

/-- The digits of a number, of which there is one at least. -/
theorem ofNat_eq_cons (n : Nat) : ∃ c ds, ofNat n = c :: ds ∧ c.isDigit = true := by
  obtain ⟨c, ds, hDigits⟩ := List.exists_cons_of_ne_nil (Nat.toDigits_ne_nil (b := 10) (n := n))
  exact ⟨c, ds, hDigits, digit_of_mem_ofNat (n := n) (by simp [ofNat, hDigits])⟩

/-- A digit is no blank, so a number begins where it is looked for. -/
theorem not_blank_of_digit {c : Char} (h : c.isDigit = true) : isBlank c = false := by
  rw [Bool.eq_false_iff]
  intro hBlank
  simp only [isBlank, Bool.or_eq_true, decide_eq_true_eq] at hBlank
  rcases hBlank with ((rfl | rfl) | rfl) | rfl <;> exact absurd h (by decide)

/-- The digits of a number come to it again. -/
theorem natOfDigits_ofNat (n : Nat) : natOfDigits (ofNat n) = n :=
  Nat.ofDigitChars_ten_toDigits

/-- The digits of a number that is not zero do not begin with a zero. -/
theorem head_ofNat {n : Nat} (hn : 0 < n) : ∃ c ds, ofNat n = c :: ds ∧ c ≠ '0' := by
  induction n using Nat.strongRecOn with
  | ind n ih =>
    unfold ofNat
    by_cases hSmall : n < 10
    · have hDigit : ∀ d < 10, 0 < d → d.digitChar ≠ '0' := by decide
      exact ⟨n.digitChar, [], Nat.toDigits_of_lt_base hSmall, hDigit n hSmall hn⟩
    · obtain ⟨c, ds, hDigits, hc⟩ := ih (n / 10) (by omega) (by omega)
      refine ⟨c, ds ++ [(n % 10).digitChar], ?_, hc⟩
      rw [Nat.toDigits_of_base_le (by decide) (by omega)]
      simpa [ofNat] using congrArg (· ++ [(n % 10).digitChar]) hDigits

/-- The digits at the front of a text that goes on with no digit. -/
theorem digits_append {ds t : Text} (hDigits : ∀ c ∈ ds, c.isDigit = true)
    (hEnd : ∀ c ∈ t.head?, c.isDigit = false) : digits (ds ++ t) = (ds, t) := by
  have hNone : t.takeWhile Char.isDigit = [] ∧ t.dropWhile Char.isDigit = t := by
    cases t with
    | nil => simp
    | cons c t => simp [hEnd c rfl]
  rw [digits, List.takeWhile_append_of_pos hDigits, List.dropWhile_append_of_pos hDigits, hNone.1,
    hNone.2, List.append_nil]

/-- The digits of a number are read up to what is no digit. -/
theorem wholeDigits_ofNat (n : Nat) {t : Text} (hEnd : ∀ c ∈ t.head?, c.isDigit = false) :
    ∃ h, wholeDigits (ofNat n ++ t) = some (ofNat n, ⟨t, h⟩) := by
  rcases Nat.eq_zero_or_pos n with rfl | hn
  · have hZero : ofNat 0 = ['0'] := rfl
    have hAny : t.head?.any Char.isDigit = false := by
      rw [Option.any_eq_false]
      simpa using hEnd
    rw [hZero]
    exact ⟨by simp, by simp [wholeDigits, hAny, Rest.tail]⟩
  · obtain ⟨c, ds, hDigits, hc⟩ := head_ofNat hn
    have hAll : ∀ d ∈ c :: ds, d.isDigit = true := fun d hd => digit_of_mem_ofNat (hDigits ▸ hd)
    have hMore : digits (ds ++ t) = (ds, t) :=
      digits_append (fun d hd => hAll d (List.mem_cons_of_mem c hd)) hEnd
    rw [hDigits, List.cons_append]
    have hLength : t.length < (c :: (ds ++ t)).length := by
      rw [List.length_cons, List.length_append]
      omega
    refine ⟨hLength, ?_⟩
    rw [wholeDigits]
    · simp [hAll c, hMore]
    · exact hc

/-- Where no point and no exponent follow, the digits of a number are a numeral. -/
theorem numeral_ofNat (n : Nat) {t : Text}
    (hEnd : ∀ c ∈ t.head?, c.isDigit = false ∧ c ≠ '.' ∧ c ≠ 'e' ∧ c ≠ 'E') :
    ∃ h, numeral false (ofNat n ++ t) = some (⟨false, ofNat n, none, none⟩, ⟨t, h⟩) := by
  obtain ⟨hLength, hWhole⟩ := wholeDigits_ofNat n fun c hc => (hEnd c hc).1
  have hFraction : fraction t = some (none, ⟨t, Nat.le_refl _⟩) := by
    cases t with
    | nil => rfl
    | cons c u =>
      rw [fraction]
      intro v hv
      exact (hEnd c rfl).2.1 (List.cons.inj hv).1
  have hExponent : exponent t = some (none, ⟨t, Nat.le_refl _⟩) := by
    cases t with
    | nil => rfl
    | cons c u =>
      have hLetter := (hEnd c rfl).2.2
      simp [exponent, hLetter]
  exact ⟨hLength, by simp [numeral, hWhole, hFraction, hExponent]⟩

/-- A printed number of 64 bits is read back. -/
theorem bareHead_ofNat {n : Nat} (hn : n < UInt64.size) {t : Text}
    (hEnd : ∀ c ∈ t.head?, c.isDigit = false ∧ c ≠ '.' ∧ c ≠ 'e' ∧ c ≠ 'E') :
    ∃ h, bareHead (ofNat n ++ t) = some (.number (.natural n), ⟨t, h⟩) := by
  have hValue : (⟨false, ofNat n, none, none⟩ : Numeral).value = some (.natural n) := by
    simp [Numeral.value, natOfDigits_ofNat, hn]
  obtain ⟨hLength, hNumeral⟩ := numeral_ofNat n hEnd
  have hNumber : numberHead false (ofNat n ++ t) = some (.number (.natural n), ⟨t, hLength⟩) := by
    simp [numberHead, hNumeral, hValue]
  refine ⟨hLength, ?_⟩
  rw [← hNumber]
  obtain ⟨c, ds, hDigits, hDigit⟩ := ofNat_eq_cons n
  rw [hDigits, List.cons_append, bareHead]
  all_goals rintro rfl; exact absurd hDigit (by decide)

-- ---------------------------------------------------------------------------
-- Behind blanks
-- ---------------------------------------------------------------------------

/-- The first piece of a value that begins with a token, whatever blanks stand before it. -/
theorem headOf_spaced {c : Char} {token t : Text} {tokens : List Text} {found : Head}
    (h : Spaced ((c :: token) :: tokens) t) (hc : isBlank c = false)
    (hHead : ∀ u, Spaced tokens u → ∃ h, bareHead (c :: (token ++ u)) = some (found, ⟨u, h⟩)) :
    ∃ rest : Rest t, headOf t = .ok (found, rest) ∧ Spaced tokens rest.val := by
  obtain ⟨u, hSkip, hMore⟩ := h.skipBlanks hc
  have hBare := hHead u hMore
  rw [← hSkip] at hBare
  obtain ⟨hLength, hBare⟩ := hBare
  exact ⟨afterBlanks ⟨u, hLength⟩, by simp [headOf, head, hBare], hMore⟩

end PathJail.Json
