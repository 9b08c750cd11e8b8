import PathJail.Pattern.Check

/-!
# Filters of the log

Which events an operator wants to see is written as a list of directives with commas between them.
A directive is a level alone, or it has up to three parts in this order: the target, the span with
a field, as in `[request{user=root}]`, and behind `=` the level. Any other word is a target of which
every level is shown. The value of a field is a number or else a pattern.

* `LogFilter.isLevel`   — the names and numbers of levels.
* `LogFilter.isNumber`  — the values that are compared as numbers.
* `LogFilter.problem?`  — what is wrong with a filter, if anything is.
-/

namespace PathJail.LogFilter

/-- What is wrong with a directive. -/
inductive Problem
  | malformed
  /-- What stands behind `=` is no level. -/
  | unknownLevel
  /-- The value of a field is no pattern. -/
  | field (value : Text) (problem : Pattern.Problem)
  deriving DecidableEq, Repr

/-- A level that is unknown, in words. -/
def unknownLevelMessage : Text :=
  "error parsing level filter: expected one of \"off\", \"error\", \"warn\", \"info\", ".toList
    ++ "\"debug\", \"trace\", or a number 0-5".toList

/-- The problem in words, and what it comes from: a level that is unknown makes its directive so,
and what is wrong with a pattern is told with the directive and then by itself. -/
def Problem.causes : Problem → List Text
  | .malformed => ["invalid filter directive".toList]
  | .unknownLevel => [unknownLevelMessage, unknownLevelMessage]
  | .field value problem =>
    let causes := problem.causes value
    ("invalid field filter: ".toList ++ causes.headD []) :: causes

/-! ## Levels -/

/-- The names of the levels, from the one that shows nothing. -/
def levelNames : List String := ["off", "error", "warn", "info", "debug", "trace"]

/-- Whether a text is the number of a level, written with any number of zeros in front. -/
def isLevelNumber (t : Text) : Bool :=
  let digits := (Text.after? ['+'] t).getD t
  digits ≠ [] && digits.all Char.isDigit && Text.natOfDigits digits ≤ 5

/-- Whether a text is a level: its name in any case, or its number. -/
def isLevel (t : Text) : Bool :=
  levelNames.any (fun name => name.toList = t.map Char.toLower) || isLevelNumber t

/-! ## Values of fields -/

/-- Whether a text is the exponent of a number, or nothing. -/
def isExponent : Text → Bool
  | [] => true
  | c :: t =>
    let digits := if t.head? = some '+' ∨ t.head? = some '-' then t.tail else t
    c.toLower = 'e' && digits ≠ [] && digits.all Char.isDigit

/-- Whether a text is a decimal number without a sign. A digit must stand before the point or behind
it. -/
def isDecimal (t : Text) : Bool :=
  let whole := t.takeWhile Char.isDigit
  match t.dropWhile Char.isDigit with
  | '.' :: rest =>
    (whole ≠ [] || rest.head?.any Char.isDigit) && isExponent (rest.dropWhile Char.isDigit)
  | rest => whole ≠ [] && isExponent rest

/-- The names of the numbers that have no digits. -/
def numberNames : List String := ["inf", "infinity", "nan"]

/-- Whether a text is a number, with a sign or without. -/
def isNumber (t : Text) : Bool :=
  let unsigned := if t.head? = some '+' ∨ t.head? = some '-' then t.tail else t
  numberNames.any (fun name => name.toList = unsigned.map Char.toLower) || isDecimal unsigned

/-- What is wrong with a field: with what stands behind its `=`, up to the next. -/
def fieldProblem? (field : Text) : Option Problem :=
  match field.splitOn '=' with
  | _ :: value :: _ => if isNumber value then none else (Pattern.problem? value).map (.field value)
  | _ => none

/-! ## Directives -/

/-- A directive as it is written, and without the white space around it. The second says of which
parts the directive is made. Each part goes from one number of bytes to another, and is taken from
what is written at those numbers; so white space in front moves every part towards the front. -/
structure Directive where
  written : Text
  trimmed : Text

namespace Directive

def ofText (written : Text) : Directive := ⟨written, Text.trim written⟩

/-- The part between two places of a directive, each given by what follows it without the white
space around the directive. -/
def part (d : Directive) (front back : Text) : Text :=
  let place := fun rest : Text => Text.byteLength d.trimmed - Text.byteLength rest
  Text.takeBytes (place back - place front) (Text.dropBytes (place front) d.written)

/-- What stands behind `=`: a level, or nothing for every level. White space before a directive or
behind it leaves no level in its place. -/
def levelProblem? (d : Directive) (t : Text) : Option Problem :=
  if d.trimmed = d.written ∧ (t = [] ∨ isLevel t) then none else some .unknownLevel

/-- What stands behind a span. -/
def tailProblem? (d : Directive) : Text → Option Problem
  | [] => none
  | '=' :: level => d.levelProblem? level
  | _ => some .malformed

/-- What stands behind the field of a span. -/
def behindField? (d : Directive) : Text → Option Problem
  | ']' :: rest => d.tailProblem? rest
  | _ => some .malformed

/-- The field of a span, behind its opening bracket. -/
def fieldsProblem? (d : Directive) (t : Text) : Option Problem :=
  if t.head? = some '}' then some .malformed
  else match t.dropWhile (· ≠ '}') with
    | [] => some .malformed
    | bracket :: rest =>
      (fieldProblem? (d.part t (bracket :: rest))).or (d.behindField? rest)

/-- A span, behind its opening bracket. -/
def spanProblem? (d : Directive) (t : Text) : Option Problem :=
  match t.dropWhile fun c => c ≠ ']' ∧ c ≠ '{' with
  | ']' :: rest => d.tailProblem? rest
  | '{' :: rest => d.fieldsProblem? rest
  | _ => some .malformed

/-- Whether a target or a level may begin with a character. -/
def startsName (c : Char) : Bool := c = '-' || c = ':' || c = '_' || Text.isAlphanumeric c

/-- What is wrong with a directive. -/
def problem? (d : Directive) : Option Problem :=
  match d.trimmed with
  | [] => some .malformed
  | '[' :: span => d.spanProblem? span
  | c :: rest =>
    if !startsName c then some .malformed
    else match rest.dropWhile fun c => c ≠ '=' ∧ c ≠ '[' with
      | '=' :: level => d.levelProblem? level
      | '[' :: span => d.spanProblem? span
      | _ => none

end Directive

/-- What is wrong with the first directive that is not in order. Nothing between two commas is no
directive, and the filter without directives is in order. -/
def problem? (filter : Text) : Option Problem :=
  ((filter.splitOn ',').filter (· ≠ [])).findSome? fun t => (Directive.ofText t).problem?

end PathJail.LogFilter
