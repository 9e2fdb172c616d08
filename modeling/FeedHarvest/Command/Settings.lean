import FeedHarvest.Ingest.Rebuild
import FeedHarvest.Text.Blank
import FeedHarvest.Text.Digits

/-!
# Settings

The program is set up by the environment: each setting has a variable, and a default for when it is
not set. Counts must be positive, and the first that is not is reported with its text as given. A
variable that is set to nothing is set.
-/

namespace FeedHarvest

/-- The variables that hold counts. -/
inductive CountVariable where
  | batchSize
  | openCalls
  | timeout
  deriving DecidableEq, Repr

namespace CountVariable

def name : CountVariable → String
  | batchSize => "INGEST_BATCH_SIZE"
  | openCalls => "INGEST_MAX_CONCURRENT_BATCHES"
  | timeout => "OPENSEARCH_TIMEOUT_SECS"

/-- The count when the variable is not set. -/
def standard : CountVariable → Nat
  | batchSize => 25
  | openCalls => 1
  | timeout => 300

end CountVariable

/-- A count that is not positive, or not a count. -/
structure CountError where
  count : CountVariable
  /-- The text of the variable. -/
  text : String
  deriving DecidableEq, Repr

/-- What is said of a count that cannot be used. -/
def CountError.message (e : CountError) : String :=
  e.count.name ++ " must be a positive integer, got '" ++ e.text ++ "'"

structure Settings where
  /-- The address of the search engine. -/
  engineAddress : String
  naming : Naming
  limits : Ingest.LoadLimits
  /-- The seconds after which a request is given up. -/
  timeout : Nat
  /-- The copies kept of an index. -/
  replicas : Nat := 1
  deriving DecidableEq

namespace Settings

/-- What the environment says of a variable. -/
abbrev Lookup := String → Option String

def text (lookup : Lookup) (name default : String) : String := (lookup name).getD default

/-- A positive count, which may have blanks around it. -/
def positive? (s : String) : Option Nat :=
  (Text.count? (Text.trim s.toList)).filter (0 < ·)

def count (lookup : Lookup) (v : CountVariable) : Except CountError Nat :=
  match lookup v.name with
  | none => .ok v.standard
  | some s =>
    match positive? s with
    | some n => .ok n
    | none => .error ⟨v, s⟩

/-- The names of the variables that set the program up. -/
def variableNames : List String :=
  [CountVariable.batchSize, .openCalls, .timeout].map CountVariable.name ++
    ["OPENSEARCH_URL", "FEED_INDEXER_ENV", "FEED_INDEXER_NAMESPACE"]

def ofLookup (lookup : Lookup) : Except CountError Settings := do
  let batchSize ← count lookup .batchSize
  let openCalls ← count lookup .openCalls
  let timeout ← count lookup .timeout
  return {
    engineAddress := text lookup "OPENSEARCH_URL" "http://localhost:9200"
    naming := ⟨text lookup "FEED_INDEXER_ENV" "development",
      text lookup "FEED_INDEXER_NAMESPACE" "feeds"⟩
    limits := ⟨batchSize, openCalls⟩
    timeout }

/-- What ingestion needs of the settings. -/
def ingest (s : Settings) : Ingest.Config := ⟨s.naming, s.limits⟩

end Settings

end FeedHarvest
