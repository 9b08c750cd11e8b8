import PathJail.Text.Basic
import PathJail.Text.Unprintable

/-!
# Quoted text

The form in which a message shows a piece of text that somebody else wrote: between double quotes,
with the usual short escapes, and with every character that has no picture of its own given by its
number, as `\u{200b}`.
-/

namespace PathJail.Text

/-- One character inside quotes. -/
def quoteChar (c : Char) : Text :=
  if c = '"' then ['\\', '"']
  else if c = '\\' then ['\\', '\\']
  else if c = '\n' then ['\\', 'n']
  else if c = '\r' then ['\\', 'r']
  else if c = '\t' then ['\\', 't']
  else if c.toNat = 0 then ['\\', '0']
  else if isPrintable c then [c]
  else ['\\', 'u', '{'] ++ hex c.toNat ++ ['}']

/-- A piece of text between double quotes. -/
def quoted (t : Text) : Text := '"' :: t.flatMap quoteChar ++ ['"']

end PathJail.Text
