import FeedHarvest.DataSource.Basic
import FeedHarvest.Json.Reader
import FeedHarvest.Json.Writer
import FeedHarvest.Time.Rfc3339

/-!
# Saved data sources

A data source is saved as an indented JSON object with one member for each field, in the order of
the fields. Reading also takes an array of the values in that order, cut off anywhere after the
required ones. In an object, members may come in any order, a field that may be missing gets its
default, a name that is no field is passed over with whatever stands under it, and a field given
twice is refused.
-/

namespace FeedHarvest

namespace IngestState

def word : IngestState → String
  | .fresh => "fresh"
  | .dirty => "dirty"
  | .rebuilding => "rebuilding"

def ofWord? (s : String) : Option IngestState :=
  [fresh, dirty, rebuilding].find? (·.word == s)

@[simp] theorem ofWord?_word (s : IngestState) : ofWord? s.word = some s := by
  cases s <;> decide

end IngestState

namespace DataSource

inductive Field where
  | api
  | version
  | name
  | description
  | url
  | data
  | messageDigest
  | dataChangedAt
  | dataImportedAt
  | published
  | consolidated
  | dictionary
  | ingestState
deriving DecidableEq, Repr

namespace Field

/-- All fields in the order in which they are saved. -/
def all : List Field :=
  [api, version, name, description, url, data, messageDigest, dataChangedAt, dataImportedAt,
    published, consolidated, dictionary, ingestState]

/-- The name of a field in a saved source. -/
def key : Field → String
  | api => "api"
  | version => "version_number"
  | name => "name"
  | description => "description"
  | url => "url"
  | data => "data"
  | messageDigest => "message_digest"
  | dataChangedAt => "data_changed_at"
  | dataImportedAt => "data_imported_at"
  | published => "published"
  | consolidated => "consolidated"
  | dictionary => "dictionary"
  | ingestState => "ingest_state"

def ofKey? (key : String) : Option Field := all.find? (·.key == key)

end Field

/-! ## Writing -/

/-- A value that may be absent, as JSON. -/
def optionalJson {α : Type} (toJson : α → Json) : Option α → Json
  | some a => toJson a
  | none => .null

def fieldJson (s : DataSource) : Field → Json
  | .api => .string s.api
  | .version => .ofNat s.version
  | .name => .string s.name
  | .description => optionalJson .string s.description
  | .url => .string s.url
  | .data => .string s.data
  | .messageDigest => optionalJson .string s.messageDigest
  | .dataChangedAt => optionalJson (.string ·.text) s.dataChangedAt
  | .dataImportedAt => optionalJson (.string ·.text) s.dataImportedAt
  | .published => .bool s.published
  | .consolidated => .bool s.consolidated
  | .dictionary => .string s.dictionary
  | .ingestState => .string s.ingestState.word

def toJson (s : DataSource) : Json := .object (Field.all.map fun f ↦ (f.key, s.fieldJson f))

/-- The text under which the source is saved. -/
def save (s : DataSource) : String := s.toJson.pretty

/-! ## Reading -/

def readText : Json.Source → Option String
  | .string parts => Json.text? parts
  | _ => none

/-- Null or something else. -/
def readOptional {α : Type} (read : Json.Source → Option α) : Json.Source → Option (Option α)
  | .null => some none
  | v => (read v).map some

def readVersion : Json.Source → Option Nat
  | .number n =>
    match n.value? with
    | some (.int v) => if 0 ≤ v ∧ v ≤ maxVersion then some v.toNat else none
    | _ => none
  | _ => none

def readBool : Json.Source → Option Bool
  | .bool b => some b
  | _ => none

def readInstant (v : Json.Source) : Option Time.Instant := do
  Time.Instant.parse? (← readText v)

/-- A state: its word, or an object whose one member has the word as its name and is null. -/
def readState : Json.Source → Option IngestState
  | .object [(name, .null)] => do IngestState.ofWord? (← Json.text? name)
  | v => do IngestState.ofWord? (← readText v)

/-- The fields of an object, or `none` if a name is no text or a field is given twice. -/
def objectFields? :
    List (List Json.StringPart × Json.Source) → Option (List (Field × Json.Source))
  | [] => some []
  | (name, v) :: rest => do
    let key ← Json.text? name
    let fields ← objectFields? rest
    match Field.ofKey? key with
    | none => return fields
    | some f => if fields.any (·.1 == f) then none else some ((f, v) :: fields)

/-- The fields that a saved source gives. -/
def fields? : Json.Source → Option (List (Field × Json.Source))
  | .object ms => objectFields? ms
  | .array items => if items.length ≤ Field.all.length then some (Field.all.zip items) else none
  | _ => none

/-- The value of a field that must be given. -/
def required {α : Type} (fields : List (Field × Json.Source)) (f : Field)
    (read : Json.Source → Option α) : Option α := (fields.lookup f).bind read

/-- The value of a field that has a default. -/
def withDefault {α : Type} (fields : List (Field × Json.Source)) (f : Field)
    (read : Json.Source → Option α) (default : α) : Option α :=
  match fields.lookup f with
  | none => some default
  | some v => read v

def ofFields? (fields : List (Field × Json.Source)) : Option DataSource := do
  return {
    api := ← required fields .api readText
    version := ← required fields .version readVersion
    name := ← withDefault fields .name readText ""
    description := ← withDefault fields .description (readOptional readText) none
    url := ← withDefault fields .url readText ""
    data := ← withDefault fields .data readText ""
    messageDigest := ← withDefault fields .messageDigest (readOptional readText) none
    dataChangedAt := ← withDefault fields .dataChangedAt (readOptional readInstant) none
    dataImportedAt := ← withDefault fields .dataImportedAt (readOptional readInstant) none
    published := ← withDefault fields .published readBool true
    consolidated := ← withDefault fields .consolidated readBool false
    dictionary := ← withDefault fields .dictionary readText ""
    ingestState := ← withDefault fields .ingestState readState .fresh }

def load? (text : String) : Option DataSource := do
  ofFields? (← fields? (← Json.Source.parse? text.toList))

end DataSource

end FeedHarvest
