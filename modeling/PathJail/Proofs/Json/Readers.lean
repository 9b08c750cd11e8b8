import Mathlib.Data.List.Forall2
import Mathlib.Data.List.Nodup
import PathJail.Proofs.Json.Lexemes

/-!
# What the readers read

A reader reads a value off given tokens when it finds the value in every text that has them, blanks
wherever they may stand, and leaves what has the tokens that follow. For single values and for
arrays the tokens are those of the printed value.

Of an object the order does not matter, and neither does an entry that may be left out. So what is
read so far depends on the names that were read, and not on their order; a schema that keeps to this
at every field reads every arrangement of the object to the same record.

* `Reads`                  — a reader reads a value off tokens.
* `ObjectOf`               — the objects with given entries, in any order and with some left out.
* `Schema.Describes`       — what a schema has to do field by field.
* `Schema.Describes.reads` — then it reads all these objects.
* `document_spaced`        — a whole document, whatever blanks it has.
-/

namespace PathJail.Json

/-- The reader reads a value off the tokens, whatever tokens follow that may follow a value. -/
def Reads {α : Type} (reader : Reader α) (tokens : List Text) (a : α) : Prop :=
  ∀ (more : List Text) (t : Text), Delimited more → Spaced (tokens ++ more) t →
    ∃ rest : Rest t, reader t = .ok (a, rest) ∧ Spaced more rest.val

-- ---------------------------------------------------------------------------
-- Single values
-- ---------------------------------------------------------------------------

/-- A word is read from the front. -/
theorem word_append {expected : Text} (h : expected ≠ []) (u : Text) :
    ∃ hLength, word expected h (expected ++ u) = some ⟨u, hLength⟩ := by
  have hLength : u.length < (expected ++ u).length := by
    have hPos := List.length_pos_iff.mpr h
    rw [List.length_append]
    omega
  refine ⟨hLength, ?_⟩
  unfold word
  split
  · next rest hAfter =>
    obtain rfl : u = rest := List.append_cancel_left (Text.after?_eq_some_iff.mp hAfter)
    rfl
  · next hNone =>
    rw [Text.after?_eq_some_iff.mpr rfl] at hNone
    cases hNone

/-- A token that is a value by itself, whatever follows. -/
theorem reads_headOf {c : Char} {token : Text} {found : Head} (hc : isBlank c = false)
    (hHead : ∀ u, ∃ h, bareHead (c :: (token ++ u)) = some (found, ⟨u, h⟩)) :
    Reads headOf [c :: token] found :=
  fun _ _ _ h => headOf_spaced h hc fun u _ => hHead u

/-- A word of the language is told by its first character. -/
theorem reads_headOf_word {c : Char} {found : Head} (token : Text) (hc : isBlank c = false)
    (hHead : ∀ t, bareHead (c :: t) =
      (word (c :: token) (List.cons_ne_nil c token) (c :: t)).map fun rest => (found, rest)) :
    Reads headOf [c :: token] found := by
  refine reads_headOf hc fun u => ?_
  have hWord := word_append (List.cons_ne_nil c token) u
  rw [List.cons_append] at hWord
  obtain ⟨hLength, hWord⟩ := hWord
  exact ⟨hLength, by rw [hHead, hWord]; rfl⟩

theorem reads_headOf_null : Reads headOf (tokens .null) .null :=
  reads_headOf_word ['u', 'l', 'l'] (by decide) fun _ => rfl

theorem reads_headOf_bool (b : Bool) : Reads headOf (tokens (.bool b)) (.bool b) := by
  cases b with
  | true => exact reads_headOf_word ['r', 'u', 'e'] (by decide) fun _ => rfl
  | false => exact reads_headOf_word ['a', 'l', 's', 'e'] (by decide) fun _ => rfl

theorem reads_headOf_string (s : Text) : Reads headOf (tokens (.string s)) (.string s) := by
  refine reads_headOf (by decide) fun u => ?_
  obtain ⟨hLength, hBody⟩ := stringBody_quoted s u
  exact ⟨Nat.lt_succ_of_lt hLength, by simp [bareHead, hBody, Rest.behind, Rest.andThen]⟩

theorem reads_headOf_number {n : Nat} (hn : n < UInt64.size) :
    Reads headOf (tokens (.number n)) (.number (.natural n)) := by
  intro more t hDelimited h
  obtain ⟨c, ds, hDigits, hDigit⟩ := ofNat_eq_cons n
  have hTokens : tokens (.number n) = [c :: ds] := congrArg (fun t => [t]) hDigits
  rw [hTokens] at h
  refine headOf_spaced h (not_blank_of_digit hDigit) fun u hMore => ?_
  rw [← List.cons_append, ← hDigits]
  exact bareHead_ofNat hn (hMore.ends_numeral hDelimited)

/-- A reader of single values goes by the first piece alone. -/
theorem reads_of_headOf {α : Type} {reader : Reader α} {tokens : List Text} {found : Head} {a : α}
    (h : Reads headOf tokens found)
    (hReader : ∀ (t : Text) (rest : Rest t), headOf t = .ok (found, rest) →
      reader t = .ok (a, rest)) : Reads reader tokens a := by
  intro more t hDelimited ht
  obtain ⟨rest, hHead, hMore⟩ := h more t hDelimited ht
  exact ⟨rest, hReader t rest hHead, hMore⟩

/-- A truth value is read where one is expected. -/
theorem reads_bool (b : Bool) : Reads Reader.bool (tokens (.bool b)) b := by
  refine reads_of_headOf (reads_headOf_bool b) fun t rest hHead => ?_
  rw [Reader.bool, hHead]
  rfl

theorem reads_size {n : Nat} (hn : n < UInt64.size) : Reads Reader.size (tokens (.number n)) n := by
  refine reads_of_headOf (reads_headOf_number hn) fun t rest hHead => ?_
  rw [Reader.size, hHead]
  rfl

theorem reads_text (s : Text) : Reads Reader.text (tokens (.string s)) s := by
  refine reads_of_headOf (reads_headOf_string s) fun t rest hHead => ?_
  rw [Reader.text, hHead]
  rfl

/-- A text and `null` are told apart by the first piece. -/
theorem reads_optionalText (s : Option Text) :
    Reads Reader.optionalText (tokens (s.elim .null .string)) s := by
  cases s with
  | none =>
    refine reads_of_headOf reads_headOf_null fun t rest hHead => ?_
    rw [Reader.optionalText, hHead]
    rfl
  | some s =>
    refine reads_of_headOf (reads_headOf_string s) fun t rest hHead => ?_
    rw [Reader.optionalText, hHead]
    rfl

-- ---------------------------------------------------------------------------
-- Arrays
-- ---------------------------------------------------------------------------

/-- A bracket is the first piece of its value, and what follows it is read on its own. -/
theorem headOf_bracket {c : Char} {found : Head} {tokens : List Text} {t : Text}
    (hc : isBlank c = false) (hHead : ∀ u, bareHead (c :: u) = some (found, Rest.tail c u))
    (h : Spaced ([c] :: tokens) t) :
    ∃ rest : Rest t, headOf t = .ok (found, rest) ∧ Spaced tokens rest.val :=
  headOf_spaced h hc fun u _ => ⟨by simp, hHead u⟩

/-- A value begins with no blank and no closing bracket. -/
theorem tokens_begin (j : Json) :
    ∃ c token more, j.tokens = (c :: token) :: more ∧ isBlank c = false ∧ c ≠ ']' := by
  cases j with
  | null => exact ⟨'n', ['u', 'l', 'l'], [], rfl, by decide, by decide⟩
  | bool b =>
    cases b with
    | true => exact ⟨'t', ['r', 'u', 'e'], [], rfl, by decide, by decide⟩
    | false => exact ⟨'f', ['a', 'l', 's', 'e'], [], rfl, by decide, by decide⟩
  | number n =>
    obtain ⟨c, ds, hDigits, hDigit⟩ := ofNat_eq_cons n
    refine ⟨c, ds, [], congrArg (fun t => [t]) hDigits, not_blank_of_digit hDigit, ?_⟩
    rintro rfl
    exact absurd hDigit (by decide)
  | string s => exact ⟨'"', s.flatMap escape ++ ['"'], [], rfl, by decide, by decide⟩
  | array items => exact ⟨'[', [], _, rfl, by decide, by decide⟩
  | object members => exact ⟨'{', [], _, rfl, by decide, by decide⟩

/-- The items of an array, the first of them or later ones. -/
theorem items_reads {α : Type} {item : Reader α} {values : List α} {js : List Json}
    (h : List.Forall₂ (fun value j => Reads item j.tokens value) values js) (isFirst : Bool)
    (more : List Text) (t : Text)
    (ht : Spaced (separated isFirst (tokensOfItems js) ++ [']'] :: more) t) :
    ∃ rest : Rest t, items item isFirst t = .ok (values, rest) ∧ Spaced more rest.val := by
  induction h generalizing isFirst t with
  | nil =>
    rw [tokensOfItems, separated, List.nil_append] at ht
    obtain ⟨rest, hNext, hMore⟩ := next_close isFirst ht (by decide)
    refine ⟨rest, ?_, hMore⟩
    rw [items, hNext]
    rfl
  | @cons value j values js hItem _ ih =>
    obtain ⟨c, token, tail, hTokens, hBlank, hClosing⟩ := tokens_begin j
    rw [tokensOfItems, hTokens] at ht
    obtain ⟨start, u, hNext, hStart, hRest⟩ := next_item ht hBlank hClosing (by decide)
    have hAt : Spaced (j.tokens ++ (separated false (tokensOfItems js) ++ [']'] :: more))
        start.val := by
      rw [hTokens, hStart]
      exact hRest.behind (c :: token)
    have hBehind : Delimited (separated false (tokensOfItems js) ++ [']'] :: more) :=
      delimited_separated (by simp [Delimited])
    obtain ⟨rest, hRead, hMore⟩ := hItem _ _ hBehind hAt
    obtain ⟨last, hItems, hLast⟩ := ih false (Next.within start rest).val hMore
    refine ⟨(Next.within start rest).andThen last, ?_, hLast⟩
    rw [items, hNext]
    simp only [bind, Except.bind, hRead, hItems]
    rfl

/-- An array is read when each of its items is. -/
theorem reads_list {α : Type} {item : Reader α} {values : List α} {js : List Json}
    (h : List.Forall₂ (fun value j => Reads item j.tokens value) values js) :
    Reads (Reader.list item) (tokens (.array js)) values := by
  intro more t _ ht
  rw [tokens, List.cons_append, List.append_assoc, List.singleton_append] at ht
  obtain ⟨rest, hHead, hItems⟩ := headOf_bracket (by decide) (fun u => rfl) ht
  obtain ⟨last, hRead, hMore⟩ := items_reads h true more rest.val hItems
  refine ⟨rest.andThen last, ?_, hMore⟩
  rw [Reader.list, hHead]
  simp only [bind, Except.bind, hRead]
  rfl

-- ---------------------------------------------------------------------------
-- Objects
-- ---------------------------------------------------------------------------

/-- An entry of an object: its name, the values that may stand under it, and whether it may be left
out. -/
structure Entry where
  name : String
  value : Json → Prop
  spare : Prop

/-- The objects that have given entries, each once and in any order, and that may leave out those
that are spare. -/
def ObjectOf (entries : List Entry) (j : Json) : Prop :=
  ∃ members : List (String × Json), j = .object members ∧ (members.map Prod.fst).Nodup ∧
    (∀ member ∈ members, ∃ entry ∈ entries, entry.name = member.1 ∧ entry.value member.2) ∧
    ∀ entry ∈ entries, entry.spare ∨ entry.name ∈ members.map Prod.fst

/-- Each of the things on the right of paired lists has its partner. -/
theorem exists_partner {α β : Type} {R : α → β → Prop} {as : List α} {bs : List β}
    (h : List.Forall₂ R as bs) {b : β} (hb : b ∈ bs) : ∃ a ∈ as, R a b := by
  induction h with
  | nil => cases hb
  | @cons a b' as bs hR _ ih =>
    rcases List.mem_cons.mp hb with rfl | hIn
    · exact ⟨a, List.mem_cons_self, hR⟩
    · obtain ⟨a', hMem, hR'⟩ := ih hIn
      exact ⟨a', List.mem_cons_of_mem a hMem, hR'⟩

/-- All entries with their values, one after the other. -/
theorem objectOf_all {entries : List Entry} {members : List (String × Json)}
    (hOnce : (members.map Prod.fst).Nodup)
    (h : List.Forall₂ (fun entry member => entry.name = member.1 ∧ entry.value member.2) entries
      members) : ObjectOf entries (.object members) := by
  refine ⟨members, rfl, hOnce, fun member hMember => exists_partner h hMember, ?_⟩
  intro entry hEntry
  obtain ⟨member, hMember, hName, _⟩ := exists_partner h.flip hEntry
  exact .inr (hName ▸ List.mem_map_of_mem hMember)

/-- A schema that reads entries to a record. What it has read is told by the names that it has seen,
from the defaults on; each field goes from there to the same with its own name, and when all that is
not spare was seen, it is the record. -/
structure Schema.Describes {σ : Type} (schema : Schema σ) (entries : List Entry)
    (known : List String → σ) (record : σ) : Prop where
  start : known [] = schema.start
  distinct : schema.names.Nodup
  fields : List.Forall₂ (fun field entry => field.name = entry.name ∧
    ∀ seen j, entry.value j → Reads (field.read (known seen)) j.tokens (known (entry.name :: seen)))
    schema.fields entries
  whole : schema.complete = true → ∀ entry ∈ entries, ¬ entry.spare
  record : ∀ seen, (∀ entry ∈ entries, entry.spare ∨ entry.name ∈ seen) → known seen = record

/-- The value of a field that has been read, or else the default. -/
def readOr {α : Type} (seen : List String) (name : String) (value default : α) : α :=
  if name ∈ seen then value else default

/-- A field that was seen keeps its value. -/
@[simp] theorem readOr_self {α : Type} (seen : List String) (name : String) (value default : α) :
    readOr (name :: seen) name value default = value :=
  if_pos List.mem_cons_self

/-- Reading another field changes nothing. -/
@[simp] theorem readOr_other {α : Type} {seen : List String} {name other : String} {value default : α}
    (h : name ≠ other) : readOr (other :: seen) name value default =
      readOr seen name value default := by
  simp [readOr, h]

/-- A value that has been read, or is the default, is the one there is. -/
theorem readOr_eq {α : Type} {seen : List String} {name : String} {value default : α}
    (h : value = default ∨ name ∈ seen) : readOr seen name value default = value := by
  unfold readOr
  split
  · rfl
  · next hUnseen => exact (h.resolve_right hUnseen).symm

/-- A field is read into the record by reading its value. -/
theorem reads_field {σ α : Type} {name : String} {reader : Reader α} {put : σ → α → σ}
    {before after : σ} {tokens : List Text} {a : α} (h : Reads reader tokens a)
    (hPut : put before a = after) :
    Reads ((Field.of name reader put).read before) tokens after := by
  intro more t hDelimited ht
  obtain ⟨rest, hRead, hMore⟩ := h more t hDelimited ht
  refine ⟨rest, ?_, hMore⟩
  simp only [Field.of, bind, Except.bind, hRead]
  exact hPut ▸ rfl

/-- A quoted name is read as the name of a field. -/
theorem key_quoted (name u : Text) :
    ∃ h, Schema.key ('"' :: (name.flatMap escape ++ ['"'] ++ u)) = .ok (name, ⟨u, h⟩) := by
  obtain ⟨hLength, hBody⟩ := stringBody_quoted name u
  exact ⟨Nat.lt_succ_of_lt hLength, by simp [Schema.key, hBody, Rest.behind, Rest.andThen]⟩

/-- The colon behind a name is read, with blanks before it. -/
theorem colon_spaced {t : Text} {tokens : List Text} (h : Spaced ([':'] :: tokens) t) :
    ∃ rest : Rest t, Schema.colon t = .ok rest ∧ Spaced tokens rest.val := by
  obtain ⟨u, hSkip, hMore⟩ := h.skipBlanks (by decide)
  unfold Schema.colon
  split
  · next rest hCons =>
    obtain rfl : rest = u := by simpa [hSkip, eq_comm] using hCons
    exact ⟨_, rfl, hMore⟩
  · next hOther => exact absurd hSkip (hOther u)

namespace Schema

variable {σ : Type} {schema : Schema σ} {entries : List Entry} {known : List String → σ} {record : σ}

/-- A field is found by its name, once. -/
theorem field_of_mem (hDistinct : schema.names.Nodup) {field : Field σ}
    (hField : field ∈ schema.fields) {seen : List String} (hSeen : field.name ∉ seen) (rest : Text) :
    schema.field seen field.name.toList rest = .ok field := by
  have hFind : schema.fields.find? (fun other => other.name.toList = field.name.toList) =
      some field := by
    obtain ⟨other, hOther⟩ := Option.isSome_iff_exists.mp
      (List.find?_isSome.mpr ⟨field, hField, by simp⟩ :
        (schema.fields.find? fun other => other.name.toList = field.name.toList).isSome)
    have hName : other.name = field.name := by
      simpa [String.toList_inj] using List.find?_some hOther
    rw [hOther, List.inj_on_of_nodup_map hDistinct (List.mem_of_find?_eq_some hOther) hField hName]
  simp [Schema.field, hFind, hSeen]

/-- A schema names the entries that it describes, in their order. -/
theorem Describes.names_eq (h : schema.Describes entries known record) :
    schema.names = entries.map Entry.name := by
  have hNames : List.Forall₂ Eq (schema.fields.map Field.name) (entries.map Entry.name) := by
    rw [List.forall₂_map_left_iff, List.forall₂_map_right_iff]
    exact h.fields.imp fun _ _ hField => hField.1
  rwa [List.forall₂_eq_eq_eq] at hNames

/-- No field is missing once every entry was seen that may not be left out. -/
theorem Describes.missing?_eq_none (h : schema.Describes entries known record)
    {seen : List String} (hSeen : ∀ entry ∈ entries, entry.spare ∨ entry.name ∈ seen) :
    schema.missing? seen = none := by
  unfold missing?
  split
  · next hComplete =>
    rw [List.find?_eq_none, h.names_eq]
    intro name hName
    obtain ⟨entry, hEntry, rfl⟩ := List.mem_map.mp hName
    have hIn := (hSeen entry hEntry).resolve_left (h.whole hComplete entry hEntry)
    simpa using hIn
  · rfl

/-- One entry of an object, and then the others. -/
theorem members_item {seen : List String} {start read final : σ} {isFirst : Bool} {t name : Text}
    {item : { r : Text // r.length ≤ t.length }} {behindName : Rest item.val} {field : Field σ}
    {behindColon : Rest behindName.val} {rest : Rest behindColon.val}
    {last : Rest (Next.within item (behindName.andThen (behindColon.andThen rest))).val}
    (hNext : next '}' isFirst t = .ok (.item item))
    (hKey : key item.val = .ok (name, behindName))
    (hField : schema.field seen name behindName.val = .ok field)
    (hColon : colon behindName.val = .ok behindColon)
    (hValue : field.read start behindColon.val = .ok (read, rest))
    (hMore : schema.members (field.name :: seen) read false _ = .ok (final, last)) :
    ∃ q : Rest t, schema.members seen start isFirst t = .ok (final, q) ∧ q.val = last.val := by
  rw [members, hNext]
  simp only [bind, Except.bind, hKey, hField, hColon, hValue, hMore]
  exact ⟨_, rfl, rfl⟩

/-- The entries that are left of an object, when those in `seen` were read before: what is known
grows by each name, and in the end nothing is missing. -/
theorem Describes.members_reads (h : schema.Describes entries known record)
    (members : List (String × Json)) (seen : List String)
    (hNew : (members.map Prod.fst ++ seen).Nodup)
    (hKnown : ∀ member ∈ members, ∃ entry ∈ entries, entry.name = member.1 ∧ entry.value member.2)
    (hAll : ∀ entry ∈ entries, entry.spare ∨ entry.name ∈ members.map Prod.fst ++ seen)
    (isFirst : Bool) (more : List Text) (t : Text)
    (ht : Spaced (separated isFirst (tokensOfMembers members) ++ ['}'] :: more) t) :
    ∃ rest : Rest t, schema.members seen (known seen) isFirst t = .ok (record, rest) ∧
      Spaced more rest.val := by
  induction members generalizing seen isFirst t with
  | nil =>
    rw [tokensOfMembers, separated, List.nil_append] at ht
    obtain ⟨rest, hNext, hMore⟩ := next_close isFirst ht (by decide)
    refine ⟨rest, ?_, hMore⟩
    rw [Schema.members, hNext]
    have hMissing : schema.missing? seen = none := h.missing?_eq_none hAll
    simp only [bind, Except.bind, hMissing, h.record seen hAll]
    rfl
  | cons member members ih =>
    obtain ⟨name, j⟩ := member
    obtain ⟨entry, hEntry, rfl, hValue⟩ := hKnown (name, j) List.mem_cons_self
    obtain ⟨field, hField, hName, hReads⟩ := exists_partner h.fields hEntry
    have hUnseen : field.name ∉ seen := by
      rw [hName]
      exact fun hIn => (List.nodup_cons.mp hNew).1 (List.mem_append_right _ hIn)
    have hBehind : Delimited (separated false (tokensOfMembers members) ++ ['}'] :: more) :=
      delimited_separated (by simp [Delimited])
    rw [tokensOfMembers] at ht
    obtain ⟨⟨_, hWithin⟩, u, hNext, rfl, hColon⟩ :=
      next_item ht (by decide) (by decide : '"' ≠ '}') (by decide)
    obtain ⟨hLength, hKey⟩ := key_quoted entry.name.toList u
    have hFound := field_of_mem h.distinct hField hUnseen u
    rw [hName] at hFound
    obtain ⟨behindColon, hAfter, hRest⟩ := colon_spaced hColon
    obtain ⟨rest, hValue, hMore⟩ := hReads seen j hValue _ _ hBehind hRest
    have hNew' : (members.map Prod.fst ++ field.name :: seen).Nodup := by
      rw [hName]
      exact List.nodup_middle.mpr hNew
    have hAll' : ∀ entry ∈ entries,
        entry.spare ∨ entry.name ∈ members.map Prod.fst ++ field.name :: seen := by
      intro other hOther
      have := hAll other hOther
      simp only [List.map_cons, List.cons_append, List.mem_cons, List.mem_append] at this ⊢
      rw [hName]
      tauto
    obtain ⟨last, hMembers, hLast⟩ := ih (field.name :: seen) hNew'
      (fun member hMember => hKnown member (List.mem_cons_of_mem _ hMember)) hAll' false
      (Next.within ⟨_, hWithin⟩ (Rest.andThen ⟨u, hLength⟩ (behindColon.andThen rest))).val hMore
    obtain ⟨q, hRead, hq⟩ := members_item hNext hKey hFound hAfter (hName ▸ hValue) hMembers
    exact ⟨q, hRead, hq ▸ hLast⟩

/-- **A schema reads every arrangement of its entries to the same record**, when each of its fields
does its part. -/
theorem Describes.reads (h : schema.Describes entries known record) {j : Json}
    (hj : ObjectOf entries j) : Reads schema.read j.tokens record := by
  obtain ⟨members, rfl, hOnce, hKnown, hAll⟩ := hj
  intro more t _ ht
  rw [tokens, List.cons_append, List.append_assoc, List.singleton_append] at ht
  obtain ⟨rest, hHead, hMembers⟩ := headOf_bracket (by decide) (fun u => rfl) ht
  obtain ⟨last, hRead, hMore⟩ := h.members_reads members [] (by simpa using hOnce) hKnown
    (by simpa using hAll) true more rest.val hMembers
  refine ⟨rest.andThen last, ?_, hMore⟩
  rw [h.start] at hRead
  rw [Schema.read, hHead]
  simp only [bind, Except.bind, hRead]
  rfl

end Schema

-- ---------------------------------------------------------------------------
-- Documents
-- ---------------------------------------------------------------------------

/-- A document is read when the reader reads its tokens. -/
theorem document_spaced {α : Type} {reader : Reader α} {tokens : List Text} {a : α} {t : Text}
    (h : Reads reader tokens a) (ht : Spaced tokens t) : document reader t = .ok a := by
  have hEnd : Delimited [] := by simp [Delimited]
  obtain ⟨rest, hRead, hRest⟩ := h [] t hEnd (by rwa [List.append_nil])
  simp only [document, bind, Except.bind, hRead, if_pos hRest.skipBlanks_nil]
  rfl

end PathJail.Json
