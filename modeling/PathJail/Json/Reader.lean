import PathJail.Decimal.Shortest
import PathJail.Json.Lexeme
import PathJail.Text.Quoted

/-!
# Reading JSON by a schema

A document is read from the left and once, and it is held against what is expected at each place
while it is read. So the first fault that it has is the one that is found, be it that the text is no
JSON there, or that it is JSON of another shape.

A record is written as an object with its fields in any order, or as an array of its fields in the
order of declaration. Unknown and repeated fields are faults as soon as their name is read. Where a
record has defaults, fields may be missing, from an array those at its end.

* `Mismatch`, `Fault` — what can be wrong with a document, and how it is put into words.
* `Reader.bool`, `Reader.size`, … — readers of single values and of arrays.
* `Schema.read`       — the reader of a record.
-/

namespace PathJail.Json

/-! ## Faults -/

/-- JSON of another shape than the expected one. -/
inductive Mismatch
  /-- Another kind of value. -/
  | wrongType (found : Head) (expected : String)
  /-- The right kind of value, and not one that is possible. -/
  | wrongValue (found : Head) (expected : String)
  | unknownField (name : Text) (known : List String)
  | repeatedField (name : String)
  | missingField (name : String)
  /-- An array that ends early. -/
  | tooShort (length : Nat) (record : String) (fields : Nat)

/-- What is wrong with a document, and for a mismatch the text that follows the place. -/
inductive Fault
  | malformed
  | mismatch (why : Mismatch) (rest : Text)

/-- The first piece of a value as messages name it. -/
def Head.describe : Head → Text
  | .null => "null".toList
  | .bool value => "boolean `".toList ++ (if value then "true" else "false").toList ++ ['`']
  | .number (.natural n) => "integer `".toList ++ Text.ofNat n ++ ['`']
  | .number (.negative n) => "integer `-".toList ++ Text.ofNat n ++ ['`']
  | .number (.floating x) => "floating point `".toList ++ Text.ofFloat x ++ ['`']
  | .string value => "string ".toList ++ Text.quoted value
  | .arrayStart => "sequence".toList
  | .objectStart => "map".toList

/-- The names that a record's fields may have. -/
def listNames (names : List String) : Text :=
  let ticked := names.map fun name => '`' :: name.toList ++ ['`']
  match ticked with
  | [] => "there are no fields".toList
  | [only] => "expected ".toList ++ only
  | [first, second] => "expected ".toList ++ first ++ " or ".toList ++ second
  | _ => "expected one of ".toList ++ ", ".toList.intercalate ticked

/-- The mismatch in words. -/
def Mismatch.message : Mismatch → Text
  | .wrongType found expected =>
    "invalid type: ".toList ++ found.describe ++ ", expected ".toList ++ expected.toList
  | .wrongValue found expected =>
    "invalid value: ".toList ++ found.describe ++ ", expected ".toList ++ expected.toList
  | .unknownField name known =>
    "unknown field `".toList ++ name ++ "`, ".toList ++ listNames known
  | .repeatedField name => "duplicate field `".toList ++ name.toList ++ ['`']
  | .missingField name => "missing field `".toList ++ name.toList ++ ['`']
  | .tooShort length record fields =>
    "invalid length ".toList ++ Text.ofNat length ++ ", expected ".toList ++ record.toList
      ++ " with ".toList ++ Text.ofNat fields
      ++ (if fields = 1 then " element" else " elements").toList

/-! ## Single values -/

/-- The outcome of reading from the front of `t`. -/
abbrev Read (α : Type) (t : Text) := Except Fault (α × Rest t)

/-- A reader of values. -/
abbrev Reader (α : Type) := (t : Text) → Read α t

/-- The first piece of a value, or the fault that there is none. -/
def headOf : Reader Head := fun t =>
  match head t with
  | some found => .ok found
  | none => .error .malformed

/-- The place of a mismatch: behind a value that was read whole, and before a bracket. -/
def Head.place (found : Head) (t : Text) (rest : Text) : Text :=
  match found with
  | .arrayStart | .objectStart => skipBlanks t
  | _ => rest

/-- The fault that a value of another kind was expected. -/
def unexpected {α : Type} {t : Text} (found : Head) (rest : Rest t) (expected : String) :
    Read α t :=
  .error (.mismatch (.wrongType found expected) (found.place t rest.val))

/-- A truth value. -/
def Reader.bool : Reader Bool := fun t => do
  match ← headOf t with
  | (.bool value, rest) => return (value, rest)
  | (found, rest) => unexpected found rest "a boolean"

/-- A size: a whole number of 64 bits without a sign. -/
def Reader.size : Reader Nat := fun t => do
  match ← headOf t with
  | (.number (.natural n), rest) => return (n, rest)
  | (.number (.negative n), rest) =>
    .error (.mismatch (.wrongValue (.number (.negative n)) "usize") rest.val)
  | (found, rest) => unexpected found rest "usize"

/-- A text. -/
def Reader.text : Reader Text := fun t => do
  match ← headOf t with
  | (.string value, rest) => return (value, rest)
  | (found, rest) => unexpected found rest "a string"

/-- A text, or `null` for none. -/
def Reader.optionalText : Reader (Option Text) := fun t => do
  match ← headOf t with
  | (.null, rest) => return (none, rest)
  | (.string value, rest) => return (some value, rest)
  | (found, rest) => unexpected found rest "a string"

/-! ## Separators -/

/-- Whether another item follows, and where. Before the first item no comma stands, between two
exactly one, and none before the closing bracket. -/
inductive Next (t : Text)
  /-- The closing bracket, and what follows it. -/
  | close (rest : Rest t)
  /-- An item that begins the text. -/
  | item (start : { r : Text // r.length ≤ t.length })

/-- What comes next in a list that `closing` ends. -/
def next (closing : Char) (isFirst : Bool) (t : Text) : Except Fault (Next t) :=
  match h : skipBlanks t with
  | [] => .error .malformed
  | c :: rest =>
    have shorter : rest.length < t.length :=
      Nat.lt_of_lt_of_le (by simp [h]) (length_skipBlanks t)
    if c = closing then .ok (.close ⟨rest, shorter⟩)
    else if isFirst then .ok (.item ⟨c :: rest, by simp; omega⟩)
    else if c = ',' then
      let behind := skipBlanks rest
      have within : behind.length ≤ t.length :=
        Nat.le_trans (length_skipBlanks rest) (Nat.le_of_lt shorter)
      match behind.head? with
      | none => .error .malformed
      | some d => if d = closing then .error .malformed else .ok (.item ⟨behind, within⟩)
    else .error .malformed

/-- A rest of something no longer than `t` is a rest of `t`. -/
def Next.within {t : Text} (start : { r : Text // r.length ≤ t.length }) (rest : Rest start.val) :
    Rest t :=
  ⟨rest.val, Nat.lt_of_lt_of_le rest.property start.property⟩

/-- The items of an array behind its opening bracket, up to and with the closing one. -/
def items {α : Type} (item : Reader α) (isFirst : Bool) (t : Text) : Read (List α) t := do
  match ← next ']' isFirst t with
  | .close rest => return ([], rest)
  | .item start =>
    let (value, rest) ← item start.val
    let rest := Next.within start rest
    let (more, last) ← items item false rest.val
    return (value :: more, rest.andThen last)
termination_by t.length
decreasing_by exact rest.property

/-- An array of values. -/
def Reader.list {α : Type} (item : Reader α) : Reader (List α) := fun t => do
  match ← headOf t with
  | (.arrayStart, rest) =>
    let (values, last) ← items item true rest.val
    return (values, rest.andThen last)
  | (found, rest) => unexpected found rest "a sequence"

/-! ## Records -/

/-- A field of a record of type `σ`: its name, and how its value is read into the record. -/
structure Field (σ : Type) where
  name : String
  read : σ → Reader σ

/-- A field whose value is read by a reader and put in its place. -/
def Field.of {σ α : Type} (name : String) (reader : Reader α) (put : σ → α → σ) : Field σ where
  name := name
  read record t := do
    let (value, rest) ← reader t
    return (put record value, rest)

/-- How a record is written. -/
structure Schema (σ : Type) where
  /-- The record as messages name it. -/
  name : String
  fields : List (Field σ)
  /-- The record before any field was read: the defaults. -/
  start : σ
  /-- Whether every field has to be there. -/
  complete : Bool

namespace Schema

variable {σ : Type} (schema : Schema σ)

/-- The names of the fields. -/
def names : List String := schema.fields.map Field.name

/-- The first field that has to be there and is not. -/
def missing? (seen : List String) : Option String :=
  if schema.complete then schema.names.find? fun name => !seen.contains name else none

/-- The place of a fault in a field's name: before the colon that should follow. -/
def placeOfName (rest : Text) : Text :=
  match skipBlanks rest with
  | '}' :: more => more
  | more => more

/-- The field of a name that has not been read before. -/
def field (seen : List String) (key : Text) (rest : Text) : Except Fault (Field σ) :=
  match schema.fields.find? fun field => field.name.toList = key with
  | none => .error (.mismatch (.unknownField key schema.names) (placeOfName rest))
  | some field =>
    if seen.contains field.name then
      .error (.mismatch (.repeatedField field.name) (placeOfName rest))
    else .ok field

/-- The colon behind a field's name. -/
def colon (t : Text) : Except Fault (Rest t) :=
  match h : skipBlanks t with
  | ':' :: rest => .ok ⟨rest, Nat.lt_of_lt_of_le (by simp [h]) (length_skipBlanks t)⟩
  | _ => .error .malformed

/-- A field's name. -/
def key : Reader Text := fun t =>
  match t with
  | '"' :: rest =>
    match stringBody rest with
    | some (name, last) => .ok (name, last.behind '"')
    | none => .error .malformed
  | _ => .error .malformed

/-- The fields of an object behind its opening bracket, read into `record`. -/
def members (seen : List String) (record : σ) (isFirst : Bool) (t : Text) : Read σ t := do
  match ← next '}' isFirst t with
  | .close rest =>
    match schema.missing? seen with
    | some name => .error (.mismatch (.missingField name) rest.val)
    | none => return (record, rest)
  | .item start =>
    let (name, behindName) ← key start.val
    let field ← schema.field seen name behindName.val
    let behindColon ← colon behindName.val
    let (record, rest) ← field.read record behindColon.val
    let rest := Next.within start (behindName.andThen (behindColon.andThen rest))
    let (record, last) ← members (field.name :: seen) record false rest.val
    return (record, rest.andThen last)
termination_by t.length
decreasing_by exact rest.property

/-- The fields of a record that is written as an array, behind its opening bracket. -/
def elements (record : σ) (count : Nat) : List (Field σ) → Reader σ
  | [], t => do
    match ← next ']' (count = 0) t with
    | .close rest => return (record, rest)
    | .item _ => .error .malformed
  | field :: fields, t => do
    match ← next ']' (count = 0) t with
    | .close rest =>
      if schema.complete then
        .error (.mismatch (.tooShort count schema.name schema.fields.length) rest.val)
      else return (record, rest)
    | .item start =>
      let (record, rest) ← field.read record start.val
      let rest := Next.within start rest
      let (record, last) ← elements record (count + 1) fields rest.val
      return (record, rest.andThen last)

/-- Reads a record. -/
def read : Reader σ := fun t => do
  match ← headOf t with
  | (.objectStart, rest) =>
    let (record, last) ← schema.members [] schema.start true rest.val
    return (record, rest.andThen last)
  | (.arrayStart, rest) =>
    let (record, last) ← schema.elements schema.start 0 schema.fields rest.val
    return (record, rest.andThen last)
  | (found, rest) => unexpected found rest schema.name

end Schema

/-! ## Documents -/

/-- Reads a whole text as one value. -/
def document {α : Type} (reader : Reader α) (t : Text) : Except Fault α := do
  let (value, rest) ← reader t
  if skipBlanks rest.val = [] then return value else throw .malformed

end PathJail.Json
