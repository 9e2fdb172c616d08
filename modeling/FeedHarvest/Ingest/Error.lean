import FeedHarvest.Dictionary.Error
import FeedHarvest.Feed.Basic
import FeedHarvest.Search.Error

/-!
# Errors of ingestion

A feed cannot be fetched or read, its dictionary cannot be compiled, or the search engine fails.
-/

namespace FeedHarvest

/-- Why a feed could not be fetched. -/
inductive FetchError where
  /-- The server cannot be reached, or its answer breaks off. -/
  | unspoken
  /-- The server answered with a status that is no success. -/
  | status (url : String) (code : Nat)
  /-- A file cannot be read as text. -/
  | file (path : String)
  /-- The source's own words. -/
  | reported (text : String)
  deriving DecidableEq, Repr

def FetchError.text? : FetchError → Option String
  | unspoken => none
  | status url code => some ("GET " ++ url ++ " returned status " ++ Http.statusText code)
  | file path => some ("failed to read " ++ path)
  | reported text => some text

/-- Why a source was not ingested. -/
inductive IngestError where
  | fetch (error : FetchError)
  | feed (flaw : Feed.Flaw)
  | dictionary (error : Dictionary.Error)
  | engine (error : Search.Error)
  deriving Repr

/-- The words for a feed that could not be had, with what is known of the reason. -/
def extractionMessage : Option String → String
  | some text => "Extraction failure: " ++ text
  | none => "Extraction failure"

def IngestError.message : IngestError → String
  | fetch e => extractionMessage e.text?
  | feed f => extractionMessage (some f.message)
  | dictionary e => "Pipeline error: " ++ e.message
  | engine e => "Engine unavailable: " ++ e.message

end FeedHarvest
