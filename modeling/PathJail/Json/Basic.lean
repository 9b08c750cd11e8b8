import PathJail.Text.Basic

/-!
# JSON values

The values that the library writes as JSON, and the two ways of writing them: on one line without a
blank (`compact`), and for people, one item to a line (`pretty`). Strings escape the quote, the
backslash and the control characters below the space, and nothing else.
-/

namespace PathJail

inductive Json
  | null
  | bool (value : Bool)
  | number (value : Nat)
  | string (value : Text)
  | array (items : List Json)
  | object (members : List (String × Json))

namespace Json

/-! ## Strings -/

/-- A character inside a JSON string. -/
def escape (c : Char) : Text :=
  if c = '"' then ['\\', '"']
  else if c = '\\' then ['\\', '\\']
  else if c = '\x08' then ['\\', 'b']
  else if c = '\t' then ['\\', 't']
  else if c = '\n' then ['\\', 'n']
  else if c = '\x0c' then ['\\', 'f']
  else if c = '\r' then ['\\', 'r']
  else if c.toNat < 0x10 then "\\u000".toList ++ Text.hex c.toNat
  else if c.toNat < 0x20 then "\\u00".toList ++ Text.hex c.toNat
  else [c]

/-- A text as a JSON string. -/
def quote (t : Text) : Text := '"' :: t.flatMap escape ++ ['"']

/-! ## Writing -/

mutual

/-- The value on one line. -/
def compact : Json → Text
  | .null => "null".toList
  | .bool true => "true".toList
  | .bool false => "false".toList
  | .number n => Text.ofNat n
  | .string t => quote t
  | .array items => '[' :: [','].intercalate (compactItems items) ++ [']']
  | .object members => '{' :: [','].intercalate (compactMembers members) ++ ['}']

def compactItems : List Json → List Text
  | [] => []
  | item :: items => item.compact :: compactItems items

def compactMembers : List (String × Json) → List Text
  | [] => []
  | (key, value) :: members =>
    (quote key.toList ++ ':' :: value.compact) :: compactMembers members

end

/-- A line break and the indentation of a level. -/
def newline (level : Nat) : Text := '\n' :: List.replicate (2 * level) ' '

/-- Pieces on lines of their own, one level deeper, between brackets; the brackets alone when there
are none. -/
def block (level : Nat) (opening closing : Char) (pieces : List Text) : Text :=
  if pieces = [] then [opening, closing]
  else
    opening :: newline (level + 1) ++ (',' :: newline (level + 1)).intercalate pieces
      ++ newline level ++ [closing]

mutual

/-- The value for people, its first line standing at an indentation level. -/
def prettyAt (level : Nat) : Json → Text
  | .array items => block level '[' ']' (prettyItems (level + 1) items)
  | .object members => block level '{' '}' (prettyMembers (level + 1) members)
  | other => other.compact

def prettyItems (level : Nat) : List Json → List Text
  | [] => []
  | item :: items => item.prettyAt level :: prettyItems level items

def prettyMembers (level : Nat) : List (String × Json) → List Text
  | [] => []
  | (key, value) :: members =>
    (quote key.toList ++ [':', ' '] ++ value.prettyAt level) :: prettyMembers level members

end

/-- The value for people. -/
def pretty (j : Json) : Text := j.prettyAt 0

end Json

end PathJail
