import PathJail.Log.Config
import PathJail.Log.Event
import PathJail.Proofs.Text.Boundary

/-!
# Texts that are fit for the log

A line of the log ends where it should only if no value in it has a control character. A path that
was made fit for the log has none: sanitizing takes them out, and what is added to a text that was
cut is printable itself. Nor is the line longer than it should be, or cut inside a character.

* `Printable`             — a text without control characters.
* `printable_path`        — the form of a path in the log is printable.
* `path_eq_truncate`      — it is the sanitized path, cut to length.
* `path_cut`              — where it is cut, and what is put in the place of the rest.
* `Event.Printable`       — the paths and names that an event shows are printable.
* `Event.showsVerbatim`   — the events that show texts as they came.
-/

namespace PathJail

-- ---------------------------------------------------------------------------
-- Texts
-- ---------------------------------------------------------------------------

/-- No character of the text is a control character. -/
def Text.Printable (t : Text) : Prop := ∀ c ∈ t, Text.isControl c = false

instance (t : Text) : Decidable t.Printable :=
  List.decidableBAll (fun c => Text.isControl c = false) t

namespace Text

/-- Two texts are printable together if each of them is. -/
theorem printable_append {a b : Text} : Printable (a ++ b) ↔ Printable a ∧ Printable b := by
  simp only [Printable, List.mem_append]
  constructor
  · intro h
    exact ⟨fun c hc => h c (Or.inl hc), fun c hc => h c (Or.inr hc)⟩
  · rintro ⟨ha, hb⟩ c (hc | hc)
    · exact ha c hc
    · exact hb c hc

/-- A text without other characters than those of a printable one is printable. -/
theorem Printable.of_subset {a b : Text} (hb : Printable b) (h : a ⊆ b) : Printable a :=
  fun c hc => hb c (h hc)

/-- A search that finds no control character shows that the text is printable. -/
theorem printable_of_any_eq_false {t : Text} (h : t.any isControl = false) : Printable t := by
  intro c hc
  rw [List.any_eq_false] at h
  exact Bool.eq_false_iff.mpr (h c hc)

theorem isControl_of_isDigit {c : Char} (h : c.isDigit = true) : isControl c = false := by
  rw [Char.isDigit, Bool.and_eq_true, decide_eq_true_eq, decide_eq_true_eq] at h
  have hLow : 48 ≤ c.val.toNat := UInt32.le_iff_toNat_le.mp h.1
  have hHigh : c.val.toNat ≤ 57 := UInt32.le_iff_toNat_le.mp h.2
  have hNotLow : ¬ c.val < 0x20 := by
    intro hLess
    have : c.val.toNat < 32 := UInt32.lt_iff_toNat_lt.mp hLess
    omega
  have hNotDelete : ¬ (0x7f : UInt32) ≤ c.val := by
    intro hGreater
    have : 127 ≤ c.val.toNat := UInt32.le_iff_toNat_le.mp hGreater
    omega
  simp [isControl, hNotLow, hNotDelete]

/-- A number in digits is printable. -/
theorem printable_ofNat (n : Nat) : Printable (ofNat n) := by
  intro c hc
  exact isControl_of_isDigit (Nat.isDigit_of_mem_toDigits (by decide) (by decide) hc)

end Text

open Text (Printable)

/-- What stands in the place of a character is printable: the escape of a line break or a tab,
nothing for another control character, and else the character. -/
theorem printable_sanitizeChar (c : Char) : Printable (sanitizeChar c) := by
  unfold sanitizeChar
  split
  · decide
  split
  · decide
  split
  · decide
  split
  · decide
  · rename_i hControl
    intro d hd
    obtain rfl := List.mem_singleton.mp hd
    exact Bool.eq_false_iff.mpr hControl

@[simp] theorem printable_sanitize (t : Text) : Printable (sanitize t) := by
  intro c hc
  obtain ⟨d, -, hd⟩ := List.mem_flatMap.mp hc
  exact printable_sanitizeChar d c hd

/-- What is no control character is shown as it is. -/
theorem sanitizeChar_of_not_control {c : Char} (h : Text.isControl c = false) :
    sanitizeChar c = [c] := by
  have hOther {d : Char} (hControl : Text.isControl d = true) : c ≠ d := by
    rintro rfl
    rw [hControl] at h
    cases h
  rw [sanitizeChar, if_neg (hOther (by decide)), if_neg (hOther (by decide)),
    if_neg (hOther (by decide)), h, if_neg Bool.false_ne_true]

/-- A printable text is left as it is. -/
theorem sanitize_of_printable {t : Text} (h : Printable t) : sanitize t = t := by
  induction t with
  | nil => rfl
  | cons c t ih =>
    have hRest : Printable t := h.of_subset (List.subset_cons_self c t)
    have hFirst := sanitizeChar_of_not_control (h c List.mem_cons_self)
    rw [sanitize, List.flatMap_cons, hFirst, ← sanitize, ih hRest]
    rfl

namespace LogConfig

/-- What is put in the place of the rest is printable itself. -/
theorem printable_truncate (log : LogConfig) {value : Text} (h : Printable value) :
    Printable (log.truncate value) := by
  unfold truncate
  split
  · exact h
  · have hKept : Printable (Text.takeBytes (Text.cutAt value log.maxValueLength) value) :=
      h.of_subset (Text.takeBytes_isPrefix _ _).subset
    simp only [Text.printable_append]
    exact ⟨⟨⟨hKept, by decide⟩, Text.printable_ofNat _⟩, by decide⟩

/-- The form of a path in the log is printable, whatever the path. -/
@[simp] theorem printable_path (log : LogConfig) (p : Text) : Printable (log.path p) := by
  unfold path
  split
  · exact log.printable_truncate (printable_sanitize p)
  · rename_i hClean
    exact log.printable_truncate (Text.printable_of_any_eq_false (Bool.eq_false_iff.mpr hClean))

/-- A path that has no control character is what sanitizing makes of it, so it can be left out. -/
theorem path_eq_truncate (log : LogConfig) (p : Text) : log.path p = log.truncate (sanitize p) := by
  unfold path
  split
  · rfl
  · rename_i hClean
    rw [sanitize_of_printable (Text.printable_of_any_eq_false (Bool.eq_false_iff.mpr hClean))]

/-- A value that is too long is shown up to the last boundary that has room. -/
theorem truncate_of_too_long (log : LogConfig) {value left : Text}
    (hLong : ¬ Text.byteLength value ≤ log.maxValueLength) {cut : Nat}
    (hCut : Text.cutAt value log.maxValueLength = cut)
    (hSplit : value = Text.takeBytes cut value ++ left)
    (hKept : Text.byteLength (Text.takeBytes cut value) = cut) :
    log.truncate value = Text.takeBytes cut value ++ "...[truncated ".toList
      ++ Text.ofNat (Text.byteLength left) ++ " bytes]".toList := by
  have hLength := congrArg Text.byteLength hSplit
  rw [Text.byteLength_append, hKept] at hLength
  have hLeft : Text.byteLength value - cut = Text.byteLength left := by omega
  rw [truncate, if_neg hLong]
  dsimp only
  rw [hCut, hLeft]

/--
**What the log shows of a path.** For every path, and every number of bytes that a value may have:

* It is the sanitized path, cut to length, whether there was something to sanitize or not; and no
  control character is in it.
* A sanitized path that has room is shown whole.
* Of any other one its longest beginning that has room is shown, and how many bytes are left out
  with the rest. The bytes that are kept are those of whole characters, and the byte behind them
  begins one.
-/
theorem path_cut (log : LogConfig) (p : Text) :
    log.path p = log.truncate (sanitize p) ∧ (log.path p).Printable ∧
      if Text.byteLength (sanitize p) ≤ log.maxValueLength then log.path p = sanitize p
      else ∃ kept left, sanitize p = kept ++ left ∧
        Text.byteLength kept ≤ log.maxValueLength ∧
        (∀ other, other <+: sanitize p → Text.byteLength other ≤ log.maxValueLength →
          other <+: kept) ∧
        log.path p = kept ++ "...[truncated ".toList ++ Text.ofNat (Text.byteLength left)
          ++ " bytes]".toList ∧
        let cut := Text.cutAt (sanitize p) log.maxValueLength
        Text.bytes kept = (Text.bytes (sanitize p)).take cut ∧
          ∀ b, (Text.bytes (sanitize p))[cut]? = some b → Text.continues b = false := by
  have hShown := log.path_eq_truncate p
  refine ⟨hShown, log.printable_path p, ?_⟩
  generalize sanitize p = value at hShown ⊢
  rw [hShown]
  split
  · rename_i hRoom
    rw [truncate, if_pos hRoom]
  · rename_i hLong
    obtain ⟨left, hSplit, hKept, hLongest⟩ := Text.cut_longest value log.maxValueLength
    have hRoom := Text.cutAt_le value log.maxValueLength
    have hBoundary := Text.isBoundary_cutAt value log.maxValueLength
    have hTruncated := log.truncate_of_too_long hLong rfl hSplit hKept
    generalize Text.cutAt value log.maxValueLength = cut at *
    generalize Text.takeBytes cut value = kept at *
    refine ⟨kept, left, hSplit, by omega, hLongest, hTruncated, ?_, ?_⟩
    · have hBytes : (Text.bytes kept).length = cut := by rw [Text.length_bytes, hKept]
      rw [hSplit, Text.bytes_append, List.take_left' hBytes]
    · intro b hb
      exact (Text.isBoundary_iff_byte hb).mp hBoundary

-- A place inside the second of two characters is no place to cut at.
example : LogConfig.path ⟨3⟩ "éé".toList = "é...[truncated 2 bytes]".toList := by decide

end LogConfig

-- ---------------------------------------------------------------------------
-- Events
-- ---------------------------------------------------------------------------

namespace Event

/-- A text that an event shows is printable; a number always is. -/
def Value.Printable : Value → Prop
  | .text value => value.Printable
  | .count _ => True

@[simp] theorem Value.printable_text {value : Text} :
    (Value.text value).Printable ↔ value.Printable := Iff.rfl

@[simp] theorem Value.printable_count (value : Nat) : (Value.count value).Printable := trivial

/-- The paths and names that the event shows are printable. What is said of a failure, in the field
`error`, is neither a path nor a name. -/
def Printable (event : Event) : Prop :=
  ∀ field ∈ event.record.fields, field.1 ≠ "error" → field.2.Printable

/-- The events that show the texts of a resolver, and the names of a host's entries, as they
came. -/
def showsVerbatim : Event → Bool
  | .baseInstalled _ | .candidate _ | .aliasCrossed _ _ | .lookup _ _ | .aliasToItself _ _
  | .aliased _ _ | .entryHidden _ _ | .unreadableName _ => true
  | _ => false

/-- The event shows texts as they came, or it is printable. -/
def Fit (event : Event) : Prop := event.showsVerbatim = true ∨ event.Printable

end Event

end PathJail
