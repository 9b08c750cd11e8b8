import PathJail.Text.Basic

/-!
# Values in the log

Every path comes from a client, so a path is made fit for a log line before it is put there: line
breaks and tabs are written as escapes, other control characters are left out, and what is longer
than the configured number of bytes is cut between two characters.

* `sanitize`       — the text without control characters.
* `truncate`       — a text cut to the configured length, with a note of how much is missing.
* `LogConfig.path` — the form of a path in the log.
-/

namespace PathJail

/-! ## Control characters -/

/-- One character as the log shows it. -/
def sanitizeChar (c : Char) : Text :=
  if c = '\n' then ['\\', 'n']
  else if c = '\r' then ['\\', 'r']
  else if c = '\t' then ['\\', 't']
  else if Text.isControl c then []
  else [c]

/-- The text with line breaks and tabs escaped and other control characters left out. -/
def sanitize (t : Text) : Text := t.flatMap sanitizeChar

/-! ## Length -/

/-- How values are written to the log. -/
structure LogConfig where
  /-- Longest value in bytes that is written whole. -/
  maxValueLength : Nat := 200
  deriving DecidableEq, Repr

namespace LogConfig

/-- The value, or as much of it as may be written and the number of bytes left out. -/
def truncate (log : LogConfig) (value : Text) : Text :=
  if Text.byteLength value ≤ log.maxValueLength then value
  else
    let cut := Text.cutAt value log.maxValueLength
    Text.takeBytes cut value ++ "...[truncated ".toList
      ++ Text.ofNat (Text.byteLength value - cut) ++ " bytes]".toList

/-- A path as the log shows it. -/
def path (log : LogConfig) (p : Text) : Text :=
  if p.any Text.isControl then log.truncate (sanitize p) else log.truncate p

end LogConfig

end PathJail
