import FeedHarvest.DataSource.Basic
import FeedHarvest.Dictionary.Compiler
import FeedHarvest.Ingest.Error
import FeedHarvest.Ingest.Loading
import FeedHarvest.Names

/-!
# Rebuilds

A rebuild replaces a source's pipeline and index and stores every record of its data. Everything
that can fail without the engine comes first: the dictionary is read and compiled and the data is
decoded before any call is made. So a rebuild is a plan or an error; and then a run of the plan that
ends at the first call that fails.

The calls of a plan are made one after the other but for its batches, which are loaded under the
limits and on whatever schedule the engine answers them. The calls that follow the batches wait for
all of them.
-/

namespace FeedHarvest.Ingest

/-- What a rebuild needs to know besides the source. -/
structure Config where
  naming : Naming
  limits : LoadLimits := {}

/-- What a rebuild is going to ask of the engine, and what is known before it does. -/
structure Plan where
  index : String
  pipelineId : String
  pipeline : Pipeline
  /-- The documents to store. -/
  documents : List Document
  /-- The time before which documents are deleted, if any are. -/
  prunedBefore : Option Time.Instant
  warning : Option IdentityWarning

namespace Plan

/-- The plan for the data of a source, read as records, with a dictionary and its pipeline. Pruning
deletes what earlier runs stored. -/
def ofRecords (config : Config) (source : DataSource) (prunes : Bool) (runAt : Time.Instant)
    (dictionary : Dictionary) (pipeline : Pipeline) (records : List Record) : Plan where
  index := config.naming.indexName source.api source.version
  pipelineId := config.naming.pipelineId source.api source.version
  pipeline := pipeline
  documents := dictionary.documents records runAt
  prunedBefore := if prunes then some runAt else none
  warning := dictionary.identityWarning? records

/-- The calls before any document is stored. -/
def opening (p : Plan) : List Search.Call :=
  [.deleteIndex p.index, .deletePipeline p.pipelineId, .putPipeline p.pipelineId p.pipeline,
    .createIndex p.index]

def store (p : Plan) (batch : List Document) : Search.Call :=
  .bulkIndex p.index p.pipelineId batch

/-- The calls after all documents are stored. -/
def closing (p : Plan) : List Search.Call :=
  (p.prunedBefore.map (.deleteOlderThan p.index stampField)).toList ++ [.refreshIndex p.index]

/-- All calls in order, with the batches one by one. -/
def calls (p : Plan) (limits : LoadLimits) : List Search.Call :=
  p.opening ++ (limits.batches p.documents).map p.store ++ p.closing

/-- What a load of the documents has come to, as a run of calls. -/
def runOf (p : Plan) (l : Load) : Search.Run :=
  ⟨l.started.map p.store, l.answered.map fun a ↦ p.store a.1.1, l.failure⟩

/-- The engine's answer to a batch, in the light of the calls answered until then. -/
def answer (p : Plan) (engine : Search.Engine) (past : List Search.Call) (l : Load)
    (call : BulkCall) : Search.Answer :=
  engine (past ++ (p.runOf l).answered) (p.store call.1)

def load (p : Plan) (limits : LoadLimits) (schedule : Schedule) (engine : Search.Engine)
    (past : List Search.Call) : Search.Run :=
  p.runOf (limits.run schedule (p.answer engine past) p.documents)

/-- Makes the calls of a plan until one fails. -/
def run (p : Plan) (limits : LoadLimits) (schedule : Schedule) (engine : Search.Engine)
    (past : List Search.Call) : Search.Run :=
  (engine.run past p.opening).andThen fun opened ↦
    (p.load limits schedule engine (past ++ opened)).andThen fun loaded ↦
      engine.run (past ++ opened ++ loaded) p.closing

end Plan

def plan (config : Config) (source : DataSource) (prunes : Bool) (runAt : Time.Instant) :
    Except IngestError Plan := do
  let pipelineId := config.naming.pipelineId source.api source.version
  let dictionary ← (Dictionary.parse source.dictionary).mapError .dictionary
  let pipeline ← (dictionary.compile pipelineId).mapError .dictionary
  let records ← (Feed.records source.data.toList).mapError .feed
  return .ofRecords config source prunes runAt dictionary pipeline records

end FeedHarvest.Ingest
