import FeedHarvest.Command.Settings
import FeedHarvest.Ingest.Error

/-!
# Errors of commands

A command fails because the program is not set up well, or for what went wrong while it did its
work.
-/

namespace FeedHarvest

/-- Why a command failed. -/
inductive CommandError where
  | count (error : CountError)
  /-- The search engine says that it is not well. -/
  | unhealthy
  /-- Some of several sources could not be freshened. -/
  | sources (failed total : Nat)
  | ingest (error : IngestError)
  | dictionary (error : Dictionary.Error)
  | engine (error : Search.Error)
  /-- A file cannot be read as text or written. -/
  | file
  /-- A file holds no data source. -/
  | format
  deriving Repr

def CommandError.message : CommandError → String
  | count e => "Configuration error: " ++ e.message
  | unhealthy => "Configuration error: OpenSearch cluster is unhealthy"
  | sources failed total =>
    "Configuration error: " ++ toString failed ++ " of " ++ toString total ++
      " data sources failed to freshen"
  | ingest e => "Ingest error: " ++ e.message
  | dictionary e => "Pipeline error: " ++ e.message
  | engine e => "Search error: " ++ e.message
  | file => "IO error"
  | format => "Serialization error"

end FeedHarvest
