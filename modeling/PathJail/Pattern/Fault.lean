import PathJail.Pattern.Basic

/-!
# Faults of patterns

What can be wrong with a pattern, in words, and the report of it: the text of the pattern with
carets under the piece that is at fault. A pattern of several lines is framed, and its lines are
numbered.

* `Flaw.message` — the fault in words.
* `Fault.report` — the fault shown in its pattern.
-/

namespace PathJail.Pattern

/-! ## Kinds -/

inductive Flaw
  /-- In brackets, an escape that is no character and no set of them. -/
  | classEscape
  | rangeOrder
  /-- A range that begins or ends with more than one character. -/
  | rangeBound
  | classUnclosed
  | countEmpty
  | countTooLarge
  | countUnclosed
  | escapeUnfinished
  | escapeUnknown
  | hexDigit
  | hexValue
  | propertyName
  | flagsDangling
  | flagTwice
  | negationTwice
  | flagsUnfinished
  | flagUnknown
  | nameTwice
  | nameEmpty
  | nameCharacter
  | nameUnfinished
  | groupUnclosed
  | groupUnopened
  | nestedTooDeep (limit : Nat)
  | nothingRepeated
  | boundaryUnclosed
  | boundaryUnfinished
  | backreference
  | lookAround
  /-- A character beyond ASCII where bytes are matched. -/
  | unicodeHere
  | invalidUtf8
  | propertyUnknown
  /-- A set that needs a table of Unicode. -/
  | kindUnavailable
  | caseUnavailable
  deriving DecidableEq, Repr

/-- The fault in words. -/
def Flaw.message : Flaw → Text
  | .classEscape => "invalid escape sequence found in character class".toList
  | .rangeOrder => "invalid character class range, the start must be <= the end".toList
  | .rangeBound => "invalid range boundary, must be a literal".toList
  | .classUnclosed => "unclosed character class".toList
  | .countEmpty => "repetition quantifier expects a valid decimal".toList
  | .countTooLarge => "decimal literal invalid".toList
  | .countUnclosed => "unclosed counted repetition".toList
  | .escapeUnfinished =>
    "incomplete escape sequence, reached end of pattern prematurely".toList
  | .escapeUnknown => "unrecognized escape sequence".toList
  | .hexDigit => "invalid hexadecimal digit".toList
  | .hexValue => "hexadecimal literal is not a Unicode scalar value".toList
  | .propertyName => "invalid Unicode character class".toList
  | .flagsDangling => "dangling flag negation operator".toList
  | .flagTwice => "duplicate flag".toList
  | .negationTwice => "flag negation operator repeated".toList
  | .flagsUnfinished => "expected flag but got end of regex".toList
  | .flagUnknown => "unrecognized flag".toList
  | .nameTwice => "duplicate capture group name".toList
  | .nameEmpty => "empty capture group name".toList
  | .nameCharacter => "invalid capture group character".toList
  | .nameUnfinished => "unclosed capture group name".toList
  | .groupUnclosed => "unclosed group".toList
  | .groupUnopened => "unopened group".toList
  | .nestedTooDeep limit =>
    "exceed the maximum number of nested parentheses/brackets (".toList ++ Text.ofNat limit
      ++ ")".toList
  | .nothingRepeated => "repetition operator missing expression".toList
  | .boundaryUnclosed =>
    "special word boundary assertion is either unclosed or contains an invalid character".toList
  | .boundaryUnfinished =>
    "found either the beginning of a special word boundary or a bounded repetition on a \\b ".toList
      ++ "with an opening brace, but no closing brace".toList
  | .backreference => "backreferences are not supported".toList
  | .lookAround =>
    "look-around, including look-ahead and look-behind, is not supported".toList
  | .unicodeHere => "Unicode not allowed here".toList
  | .invalidUtf8 => "pattern can match invalid UTF-8".toList
  | .propertyUnknown => "Unicode property not found".toList
  | .kindUnavailable =>
    "Unicode-aware Perl class not found (make sure the unicode-perl feature is enabled)".toList
  | .caseUnavailable =>
    "Unicode-aware case insensitivity matching is not available ".toList
      ++ "(make sure the unicode-case feature is enabled)".toList

/-- A fault and where it is. -/
structure Fault where
  flaw : Flaw
  span : Span
  /-- An earlier piece that the one at fault repeats. -/
  earlier : Option Span := none
  deriving DecidableEq, Repr

/-! ## Lines -/

/-- The lines of a text. Behind a line break at the end no other line begins, and of a carriage
return before a line break nothing is shown. -/
def lines (t : Text) : List Text :=
  let pieces := t.splitOn '\n'
  let shown := fun line => (Text.before? ['\r'] line).getD line
  match pieces.getLast? with
  | some [] => pieces.dropLast.map shown
  | some last => pieces.dropLast.map shown ++ [last]
  | none => []

/-- A place by its line and its column, both counted from zero. -/
def lineColumn (pattern : Text) (offset : Nat) : Nat × Nat :=
  let before := pattern.take offset
  (before.count '\n', (before.reverse.takeWhile (· ≠ '\n')).length)

/-- A piece by the lines and columns of its ends. -/
structure Piece where
  line : Nat
  column : Nat
  lastLine : Nat
  lastColumn : Nat

def Piece.ofSpan (pattern : Text) (span : Span) : Piece :=
  let (line, column) := lineColumn pattern span.start
  let (lastLine, lastColumn) := lineColumn pattern span.stop
  ⟨line, column, lastLine, lastColumn⟩

/-! ## The report -/

/-- Carets under the pieces of a line, which come from left to right. -/
def carets (margin : Nat) (pieces : List Piece) : Text :=
  pieces.foldl (fun t piece =>
    t ++ List.replicate (margin + piece.column - t.length) ' '
      ++ List.replicate (max 1 (piece.lastColumn - piece.column)) '^')
    (List.replicate margin ' ')

/-- What stands before a line: its number, or blanks where there is one line alone. -/
def lineHead (width number : Nat) : Text :=
  if width = 0 then "    ".toList
  else
    let digits := Text.ofNat number
    List.replicate (width - digits.length) ' ' ++ digits ++ ": ".toList

/-- The lines of a pattern with carets under pieces of it. -/
def marked (pattern : Text) (width : Nat) (pieces : List Piece) : Text :=
  (lines pattern).zipIdx.flatMap fun (line, i) =>
    let head := lineHead width (i + 1)
    let here := pieces.filter fun piece => piece.line = i ∧ piece.lastLine = i
    head ++ line ++ ['\n']
      ++ (if here.isEmpty then [] else carets head.length here ++ ['\n'])

/-- A piece of several lines in words. -/
def Piece.note (piece : Piece) : Text :=
  "on line ".toList ++ Text.ofNat (piece.line + 1) ++ " (column ".toList
    ++ Text.ofNat (piece.column + 1) ++ ") through line ".toList
    ++ Text.ofNat (piece.lastLine + 1) ++ " (column ".toList ++ Text.ofNat piece.lastColumn
    ++ ")".toList

/-- The fault shown in its pattern. -/
def Fault.report (pattern : Text) (fault : Fault) : Text :=
  let spans := fault.earlier.toList ++ [fault.span]
  let pieces := spans.map (Piece.ofSpan pattern)
  let body :=
    if '\n' ∈ pattern then
      let count := (lines pattern).length + (if pattern.getLast? = some '\n' then 1 else 0)
      let width := if count ≤ 1 then 0 else (Text.ofNat count).length
      let divider := List.replicate 79 '~' ++ ['\n']
      let long := pieces.filter fun piece => piece.line ≠ piece.lastLine
      divider ++ marked pattern width pieces ++ divider
        ++ (if long.isEmpty then []
            else ['\n'].intercalate (long.map Piece.note) ++ ['\n'])
    else marked pattern 0 pieces
  "regex parse error:\n".toList ++ body ++ "error: ".toList ++ fault.flaw.message

end PathJail.Pattern
