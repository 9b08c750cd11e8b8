import PathJail.Config.Printer
import PathJail.Config.Reader
import PathJail.Proofs.Json.Readers

/-!
# Round trips of configurations

A configuration that is printed and read again is the same, or is refused for what cannot be used in
it. The same holds of every other way to write it down: with the fields of each object in any order,
with blanks between the tokens, and without the fields that have their defaults.

* `Config.Written`        — the documents that write a configuration down.
* `Config.parse_written`  — what reading any of them gives.
-/

namespace PathJail

open Json

-- ---------------------------------------------------------------------------
-- Documents of a configuration
-- ---------------------------------------------------------------------------

/-- The entries of an alias, neither of which may be left out. -/
def AliasConfig.entries (configured : AliasConfig) : List Entry := [
  ⟨"source", (· = .string configured.source), False⟩,
  ⟨"destination", (· = .string configured.destination), False⟩]

def Options.entries (options : Options) : List Entry := [
  ⟨"allow_symlinks", (· = .bool options.allowSymlinks),
    options.allowSymlinks = ({} : Options).allowSymlinks⟩,
  ⟨"server_root", (· = .ofOption options.serverRoot),
    options.serverRoot = ({} : Options).serverRoot⟩]

def Limits.entries (limits : Limits) : List Entry := [
  ⟨"max_path_length", (· = .number limits.maxPathLength),
    limits.maxPathLength = ({} : Limits).maxPathLength⟩,
  ⟨"max_symlink_depth", (· = .number limits.maxLinks), limits.maxLinks = ({} : Limits).maxLinks⟩]

def LogConfig.entries (log : LogConfig) : List Entry := [
  ⟨"max_value_length", (· = .number log.maxValueLength),
    log.maxValueLength = ({} : LogConfig).maxValueLength⟩]

namespace Config

/-- The entries of a configuration. The aliases keep their order, and each is written in any way, as
are the three records in it. -/
def entries (c : Config) : List Entry := [
  ⟨"engine", (· = .bool c.engine), c.engine = ({} : Config).engine⟩,
  ⟨"root", (· = .ofOption c.root), c.root = ({} : Config).root⟩,
  ⟨"aliases", fun j => ∃ items, j = .array items ∧
    List.Forall₂ (fun configured item => ObjectOf configured.entries item) c.aliases items,
    c.aliases = ({} : Config).aliases⟩,
  ⟨"options", ObjectOf c.options.entries, c.options = ({} : Config).options⟩,
  ⟨"limits", ObjectOf c.limits.entries, c.limits = ({} : Config).limits⟩,
  ⟨"log", ObjectOf c.log.entries, c.log = ({} : Config).log⟩]

/-- A document writes a configuration down: fields in any order, those that have their defaults
perhaps left out, and any blanks between the tokens. -/
def Written (c : Config) (document : Text) : Prop :=
  ∃ j, ObjectOf c.entries j ∧ Spaced j.tokens document

/-- All sizes are numbers of 64 bits. -/
def Fits (c : Config) : Prop :=
  c.limits.maxPathLength < UInt64.size ∧ c.limits.maxLinks < UInt64.size ∧
    c.log.maxValueLength < UInt64.size

/-- A configuration that a session can have: its directories are absolute, and its paths may have a
length. -/
def Usable (c : Config) : Prop :=
  (∀ root ∈ c.root, root.head? = some '/') ∧
    (∀ root ∈ c.options.serverRoot, root.head? = some '/') ∧ 0 < c.limits.maxPathLength

end Config

-- ---------------------------------------------------------------------------
-- The printed document
-- ---------------------------------------------------------------------------

/-- An alias is written as an object with its entries. -/
theorem AliasConfig.objectOf_toJson (configured : AliasConfig) :
    ObjectOf configured.entries configured.toJson :=
  objectOf_all (by simp) (.cons ⟨rfl, rfl⟩ (.cons ⟨rfl, rfl⟩ .nil))

theorem Options.objectOf_toJson (options : Options) : ObjectOf options.entries options.toJson :=
  objectOf_all (by simp) (.cons ⟨rfl, rfl⟩ (.cons ⟨rfl, rfl⟩ .nil))

theorem Limits.objectOf_toJson (limits : Limits) : ObjectOf limits.entries limits.toJson :=
  objectOf_all (by simp) (.cons ⟨rfl, rfl⟩ (.cons ⟨rfl, rfl⟩ .nil))

theorem LogConfig.objectOf_toJson (log : LogConfig) : ObjectOf log.entries log.toJson :=
  objectOf_all (by simp) (.cons ⟨rfl, rfl⟩ .nil)

theorem Config.objectOf_toJson (c : Config) : ObjectOf c.entries c.toJson := by
  have hAliases : List.Forall₂ (fun configured item => ObjectOf configured.entries item) c.aliases
      (c.aliases.map AliasConfig.toJson) := by
    rw [List.forall₂_map_right_iff, List.forall₂_same]
    exact fun configured _ => configured.objectOf_toJson
  exact objectOf_all (by simp) (.cons ⟨rfl, rfl⟩ (.cons ⟨rfl, rfl⟩
    (.cons ⟨rfl, c.aliases.map AliasConfig.toJson, rfl, hAliases⟩
      (.cons ⟨rfl, c.options.objectOf_toJson⟩ (.cons ⟨rfl, c.limits.objectOf_toJson⟩
        (.cons ⟨rfl, c.log.objectOf_toJson⟩ .nil))))))

/-- The printed document is one that writes the configuration down. -/
theorem Config.written_print (c : Config) : c.Written c.print := by
  refine ⟨c.toJson, c.objectOf_toJson, ?_⟩
  rw [Config.print, compact_eq_flatten]
  exact spaced_flatten c.toJson.tokens

-- ---------------------------------------------------------------------------
-- Reading the records
-- ---------------------------------------------------------------------------

/-- A text that may be missing is read as it was written. -/
theorem reads_ofOption (s : Option Text) : Reads Reader.optionalText (tokens (.ofOption s)) s := by
  cases s with
  | none => exact reads_optionalText none
  | some s => exact reads_optionalText (some s)

namespace AliasConfig

/-- An alias as far as it has been read. -/
def known (configured : AliasConfig) (seen : List String) : AliasConfig where
  source := readOr seen "source" configured.source []
  destination := readOr seen "destination" configured.destination []

/-- **An alias**, with both of its fields. -/
theorem describes (configured : AliasConfig) :
    schema.Describes configured.entries configured.known configured where
  start := rfl
  distinct := by decide
  fields := by
    refine .cons ⟨rfl, ?_⟩ (.cons ⟨rfl, ?_⟩ .nil) <;> rintro seen _ rfl
    · exact reads_field (reads_text _) (by simp [known])
    · exact reads_field (reads_text _) (by simp [known])
  whole := by simp [entries]
  record := by
    intro seen hAll
    simp only [entries, List.forall_mem_cons, false_or] at hAll
    simp [known, readOr, hAll]

end AliasConfig

namespace Options

/-- Switches as far as they have been read. -/
def known (options : Options) (seen : List String) : Options where
  allowSymlinks := readOr seen "allow_symlinks" options.allowSymlinks ({} : Options).allowSymlinks
  serverRoot := readOr seen "server_root" options.serverRoot ({} : Options).serverRoot

/-- **Options**, all of which may be left out. -/
theorem describes (options : Options) :
    schema.Describes options.entries options.known options where
  start := rfl
  distinct := by decide
  fields := by
    refine .cons ⟨rfl, ?_⟩ (.cons ⟨rfl, ?_⟩ .nil) <;> rintro seen _ rfl
    · exact reads_field (reads_bool _) (by simp [known])
    · exact reads_field (reads_ofOption _) (by simp [known])
  whole := by simp [schema]
  record := by
    intro seen hAll
    simp only [entries, List.forall_mem_cons] at hAll
    obtain ⟨hAllow, hRoot, -⟩ := hAll
    rw [known, readOr_eq hAllow, readOr_eq hRoot]

end Options

namespace Limits

/-- Limits as far as they have been read. -/
def known (limits : Limits) (seen : List String) : Limits where
  maxPathLength := readOr seen "max_path_length" limits.maxPathLength ({} : Limits).maxPathLength
  maxLinks := readOr seen "max_symlink_depth" limits.maxLinks ({} : Limits).maxLinks

/-- **Limits** that fit a machine word. -/
theorem describes (limits : Limits) (hPath : limits.maxPathLength < UInt64.size)
    (hLinks : limits.maxLinks < UInt64.size) :
    schema.Describes limits.entries limits.known limits where
  start := rfl
  distinct := by decide
  fields := by
    refine .cons ⟨rfl, ?_⟩ (.cons ⟨rfl, ?_⟩ .nil) <;> rintro seen _ rfl
    · exact reads_field (reads_size hPath) (by simp [known])
    · exact reads_field (reads_size hLinks) (by simp [known])
  whole := by simp [schema]
  record := by
    intro seen hAll
    simp only [entries, List.forall_mem_cons] at hAll
    obtain ⟨hPath, hLinks, -⟩ := hAll
    rw [known, readOr_eq hPath, readOr_eq hLinks]

end Limits

namespace LogConfig

/-- The log's configuration as far as it has been read. -/
def known (log : LogConfig) (seen : List String) : LogConfig where
  maxValueLength := readOr seen "max_value_length" log.maxValueLength ({} : LogConfig).maxValueLength

/-- **The settings of the log**, with a length that fits a machine word. -/
theorem describes (log : LogConfig) (hLength : log.maxValueLength < UInt64.size) :
    schema.Describes log.entries log.known log where
  start := rfl
  distinct := by decide
  fields := by
    refine .cons ⟨rfl, ?_⟩ .nil
    rintro seen _ rfl
    exact reads_field (reads_size hLength) (by simp [known])
  whole := by simp [schema]
  record := by
    intro seen hAll
    simp only [entries, List.forall_mem_cons] at hAll
    obtain ⟨hLength, -⟩ := hAll
    rw [known, readOr_eq hLength]

end LogConfig

namespace Config

/-- A configuration as far as it has been read. -/
def known (c : Config) (seen : List String) : Config where
  engine := readOr seen "engine" c.engine ({} : Config).engine
  root := readOr seen "root" c.root ({} : Config).root
  aliases := readOr seen "aliases" c.aliases ({} : Config).aliases
  options := readOr seen "options" c.options ({} : Config).options
  limits := readOr seen "limits" c.limits ({} : Config).limits
  log := readOr seen "log" c.log ({} : Config).log

/-- Aliases are read one by one, each written in any way. -/
theorem reads_aliases {aliases : List AliasConfig} {items : List Json}
    (h : List.Forall₂ (fun configured item => ObjectOf configured.entries item) aliases items) :
    Reads (Reader.list AliasConfig.schema.read) (tokens (.array items)) aliases :=
  reads_list (h.imp fun configured _ hItem => configured.describes.reads hItem)

/-- **A configuration**, by its parts. -/
theorem describes (c : Config) (hFits : c.Fits) : schema.Describes c.entries c.known c where
  start := rfl
  distinct := by decide
  fields := by
    obtain ⟨hPath, hLinks, hLog⟩ := hFits
    refine .cons ⟨rfl, ?engine⟩ (.cons ⟨rfl, ?root⟩ (.cons ⟨rfl, ?aliases⟩
      (.cons ⟨rfl, ?options⟩ (.cons ⟨rfl, ?limits⟩ (.cons ⟨rfl, ?log⟩ .nil)))))
    case engine =>
      rintro seen _ rfl
      exact reads_field (reads_bool _) (by simp [known])
    case root =>
      rintro seen _ rfl
      exact reads_field (reads_ofOption _) (by simp [known])
    case aliases =>
      rintro seen _ ⟨items, rfl, hItems⟩
      exact reads_field (reads_aliases hItems) (by simp [known])
    case options =>
      intro seen j hj
      exact reads_field (c.options.describes.reads hj) (by simp [known])
    case limits =>
      intro seen j hj
      exact reads_field ((c.limits.describes hPath hLinks).reads hj) (by simp [known])
    case log =>
      intro seen j hj
      exact reads_field ((c.log.describes hLog).reads hj) (by simp [known])
  whole := by simp [schema]
  record := by
    intro seen hAll
    simp only [entries, List.forall_mem_cons] at hAll
    obtain ⟨hEngine, hRoot, hAliases, hOptions, hLimits, hLog, -⟩ := hAll
    rw [known, readOr_eq hEngine, readOr_eq hRoot, readOr_eq hAliases, readOr_eq hOptions,
      readOr_eq hLimits, readOr_eq hLog]

-- ---------------------------------------------------------------------------
-- Reading a document
-- ---------------------------------------------------------------------------

/-- A document is read to the configuration that it writes down. -/
theorem read_written {c : Config} (hFits : c.Fits) {document : Text} (h : c.Written document) :
    read document = .ok c := by
  obtain ⟨j, hj, hSpaced⟩ := h
  have hDocument := document_spaced ((c.describes hFits).reads hj) hSpaced
  rw [read, hDocument]

/-- Nothing is found wrong with what is usable, and with nothing else. -/
theorem problem?_eq_none_iff (c : Config) : c.problem? = none ↔ c.Usable := by
  have hRelative : ∀ path : Option Text, isRelative path = false ↔
      ∀ p ∈ path, p.head? = some '/' := by
    intro path
    cases path <;> simp [isRelative, Path.isAbsolute]
  simp only [Usable, ← hRelative, problem?, Nat.pos_iff_ne_zero]
  cases isRelative c.root <;> cases isRelative c.options.serverRoot <;> simp

/-- **Configurations make the round trip.** The printed document of a configuration, and every other
document that writes it down, is read to that configuration when it is usable, and is refused with
its problem when it is not. -/
theorem parse_written (c : Config) (hFits : c.Fits) (document : Text)
    (hDocument : document = c.print ∨ c.Written document) :
    (c.Usable → parse document = .ok c) ∧
      (¬ c.Usable → ∃ problem, c.problem? = some problem ∧
        parse document = .error (.unusable problem) ∧
        (parse document).mapError ConfigError.toError = .error (.config problem.message)) := by
  have hRead : read document = .ok c := by
    rcases hDocument with rfl | hWritten
    · exact read_written hFits c.written_print
    · exact read_written hFits hWritten
  rw [← problem?_eq_none_iff]
  cases hProblem : c.problem? with
  | none =>
    have hParse : parse document = .ok c := by
      simp only [parse, hRead, hProblem, bind, Except.bind]
      rfl
    exact ⟨fun _ => hParse, fun hUnusable => absurd rfl hUnusable⟩
  | some problem =>
    have hParse : parse document = .error (.unusable problem) := by
      simp only [parse, hRead, hProblem, bind, Except.bind]
      rfl
    exact ⟨nofun, fun _ => ⟨problem, rfl, hParse, by rw [hParse]; rfl⟩⟩

/-- A session confined to one directory, in which links are shown. -/
def ftp : Config := { root := some "/srv/ftp".toList, options := { allowSymlinks := true } }

/-- The same as an object, its fields in the other order and without the defaults. -/
def ftpJson : Json := .object [
  ("options", .object [("allow_symlinks", .bool true)]),
  ("root", .string "/srv/ftp".toList)]

/-- The same as a document, with a blank around every token. -/
def ftpDocument : Text :=
  (" \x7b \"options\" : \x7b \"allow_symlinks\" : true \x7d , " ++
    "\"root\" : \"/srv/ftp\" \x7d ").toList

/-- The entries of `ftp`, in another order and without those that have their defaults. -/
theorem objectOf_ftpJson : ObjectOf ftp.entries ftpJson := by
  have hOptions : ObjectOf ftp.options.entries (.object [("allow_symlinks", .bool true)]) :=
    ⟨_, rfl, by simp, by simp [Options.entries, ftp], by simp [Options.entries, ftp]⟩
  refine ⟨_, rfl, by simp, ?_, by simp [entries, ftp]⟩
  simpa [entries, Json.ofOption, ftp] using hOptions

/-- The document writes them, with blanks between the tokens. -/
theorem written_ftpDocument : ftp.Written ftpDocument := by
  have hText : ftpDocument = ftpJson.tokens.flatMap ([' '] ++ ·) ++ [' '] := by decide
  refine ⟨ftpJson, objectOf_ftpJson, ?_⟩
  rw [hText]
  exact spaced_flatMap (by simp [isBlank]) ftpJson.tokens

theorem parse_written_ftp :
    ftp.Fits ∧ ftp.Written ftpDocument ∧ ftp.Usable ∧ parse ftpDocument = .ok ftp := by
  have hFits : ftp.Fits := ⟨by decide, by decide, by decide⟩
  have hUsable : ftp.Usable := by simp [Usable, ftp]
  have hParse := parse_written ftp hFits ftpDocument (.inr written_ftpDocument)
  exact ⟨hFits, written_ftpDocument, hUsable, hParse.1 hUsable⟩

end Config

end PathJail
