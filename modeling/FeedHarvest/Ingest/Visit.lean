import FeedHarvest.Digest.Sha3
import FeedHarvest.Ingest.Rebuild

/-!
# Visits

A visit to a source fetches its feed, or takes the stored one, and rebuilds the index if that is
called for. A source is *dirty* from the moment its data changes until a rebuild succeeds, so a
failed rebuild is made up for by the next visit even when the feed has not changed since.

A visit is a function of what the world answers: the fetched text, the engine, and two readings of
the clock. It leaves a source behind, and says what it asked of the world.
-/

namespace FeedHarvest.Ingest

/-- What a visit meets outside. -/
structure World where
  /-- The feed at an address. -/
  fetch : String → Except FetchError String
  engine : Search.Engine
  /-- How open calls are answered. -/
  schedule : Schedule := .prompt
  /-- The calls answered before the visit, in order. -/
  past : List Search.Call := []
  /-- The time after fetching. -/
  fetchedAt : Time.Instant
  /-- The time of the rebuild. -/
  runAt : Time.Instant

/-- What a visit did. -/
inductive Outcome where
  /-- The feed was the one stored, and the index shows it. -/
  | unchanged
  /-- The index was rebuilt with a number of documents. -/
  | reingested (documents : Nat)
  /-- The source holds no data of its own. -/
  | skipped
  deriving DecidableEq, Repr

/-- What a visit leaves behind. -/
structure Visit where
  source : DataSource
  result : Except IngestError Outcome
  /-- The addresses fetched from. -/
  fetched : List String := []
  /-- The source as it stood while its index was rebuilt, if a rebuild was begun. -/
  begun : Option DataSource := none
  /-- The calls made, in order. -/
  calls : List Search.Call := []
  /-- The calls answered, in the order of the answers. -/
  answered : List Search.Call := []

/-- Rebuilds the index from the stored data. -/
def rebuild (config : Config) (world : World) (prunes : Bool) (source : DataSource) : Visit :=
  if source.consolidated then { source, result := .ok .skipped }
  else
    let begun := { source with ingestState := .rebuilding }
    match plan config begun prunes world.runAt with
    | .error e =>
      { source := { begun with ingestState := .dirty }, result := .error e, begun := some begun }
    | .ok p =>
      let run := p.run config.limits world.schedule world.engine world.past
      match run.failure with
      | some e =>
        { source := { begun with ingestState := .dirty }, result := .error (.engine e)
          begun := some begun, calls := run.made, answered := run.answered }
      | none =>
        { source := { begun with ingestState := .fresh }
          result := .ok (.reingested p.documents.length)
          begun := some begun, calls := run.made, answered := run.answered }

/-- Whether a text is the one that a source was last known to have. -/
def isKnown (source : DataSource) (text : String) : Bool :=
  source.messageDigest == some (Digest.ofText text)

/-- The source with a text that was just fetched, before its index is rebuilt. -/
def receive (source : DataSource) (text : String) (at_ : Time.Instant) : DataSource :=
  let source := { source with dataImportedAt := some at_, ingestState := .dirty }
  if isKnown source text then source
  else { source with
    data := text, messageDigest := some (Digest.ofText text), dataChangedAt := some at_ }

/-- Fetches the feed and rebuilds the index if the feed changed or the source is dirty. -/
def freshen (config : Config) (world : World) (source : DataSource) : Visit :=
  if source.consolidated then { source, result := .ok .skipped }
  else
    let fetched := [source.url]
    match world.fetch source.url with
    | .error e => { source, result := .error (.fetch e), fetched }
    | .ok text =>
      if isKnown source text && source.ingestState != .dirty then
        { source := { source with dataImportedAt := some world.fetchedAt }
          result := .ok .unchanged, fetched }
      else
        { rebuild config world true (receive source text world.fetchedAt) with fetched }

/-- The kinds of visit. -/
inductive Errand where
  | freshen
  /-- Rebuilds from the stored data and deletes nothing, for a changed dictionary. -/
  | ingest
  /-- Rebuilds from the stored data and deletes what earlier runs stored. -/
  | ingestAndPrune
  deriving DecidableEq, Repr

def visit (config : Config) (world : World) (errand : Errand) (source : DataSource) : Visit :=
  match errand with
  | .freshen => freshen config world source
  | .ingest => rebuild config world false source
  | .ingestAndPrune => rebuild config world true source

end FeedHarvest.Ingest
