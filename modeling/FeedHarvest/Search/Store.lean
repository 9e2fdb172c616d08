import FeedHarvest.Search.Call
import FeedHarvest.Search.Index

/-!
# An engine that keeps what it is given

What a search engine does with its calls, as far as a rebuild relies on it: pipelines are registered
and removed by their id, indices are made and removed by their name, documents are stored under
their identity, and a query deletes the documents that it finds. Removing what is missing does
nothing, and making an index that exists is refused and changes nothing.

The engine may fail at any call besides. Which calls fail is not fixed.
-/

namespace FeedHarvest.Search

/-- What an engine keeps. -/
structure Store where
  /-- The pipelines by their ids. -/
  pipelines : String → Option Pipeline
  /-- The documents of each index. -/
  indices : String → Option (List Document)

/-- Documents with one more, which replaces the one of its identity. -/
def upsert (ds : List Document) (d : Document) : List Document :=
  match ds with
  | [] => [d]
  | e :: rest => if e.id = d.id then d :: rest else e :: upsert rest d

/-- The field and the text that a query for what is below a text speaks of. -/
def bound? (query : Json) : Option (String × String) :=
  match ((query.get? "query").bind fun q ↦ q.get? "range").map Json.members with
  | some [(field, range)] => ((range.get? "lt").bind Json.asString?).map fun limit ↦ (field, limit)
  | _ => none

def finds (query : Json) (d : Document) : Bool :=
  match bound? query with
  | some (field, limit) =>
    match (d.body.get? field).bind Json.asString? with
    | some text => decide (text < limit)
    | none => false
  | none => false

@[simp] theorem bound?_olderThan (field : String) (cutoff : Time.Instant) :
    bound? (olderThan field cutoff) = some (field, cutoff.stamp) := by
  simp [bound?, olderThan, Json.get?, Json.members, Json.Members.get?, Json.asString?]

/-- A document whose text in the field is that of the time is not older. -/
theorem not_finds_olderThan {field : String} {cutoff : Time.Instant} {d : Document}
    (h : d.body.get? field = some (.string cutoff.stamp)) :
    finds (olderThan field cutoff) d = false := by
  simp [finds, h, Json.asString?]

namespace Store

/-- The store with a pipeline set or removed. -/
def setPipeline (s : Store) (id : String) (p : Option Pipeline) : Store :=
  { s with pipelines := fun other ↦ if other = id then p else s.pipelines other }

/-- The store with an index set or removed. -/
def setIndex (s : Store) (index : String) (ds : Option (List Document)) : Store :=
  { s with indices := fun other ↦ if other = index then ds else s.indices other }

def after (s : Store) : Call → Store
  | .deleteIndex i => s.setIndex i none
  | .deletePipeline id => s.setPipeline id none
  | .putPipeline id p => s.setPipeline id (some p)
  | .createIndex i => if (s.indices i).isSome then s else s.setIndex i (some [])
  | .bulkIndex i _ ds => s.setIndex i (some (ds.foldl upsert ((s.indices i).getD [])))
  | .deleteOlderThan i field cutoff =>
    s.setIndex i ((s.indices i).map fun ds ↦ ds.filter fun d ↦ !finds (olderThan field cutoff) d)
  | .refreshIndex _ => s

def afterAll (s : Store) (calls : List Call) : Store := calls.foldl after s

def answer (s : Store) : Call → Answer
  | .createIndex i =>
    if (s.indices i).isSome then .error ⟨.indexCreation, .unspoken⟩ else .ok 0
  | .deleteOlderThan i field cutoff =>
    .ok (((s.indices i).getD []).countP fun d ↦ finds (olderThan field cutoff) d)
  | _ => .ok 0

/-- The engine that keeps a store, and fails besides as `fault` has it. -/
def engine (s : Store) (fault : List Call → Call → Option Error) : Engine := fun past c ↦
  match fault past c with
  | some e => .error e
  | none => (s.afterAll past).answer c

variable (s : Store)

@[simp] theorem pipelines_setPipeline_self (id : String) (p : Option Pipeline) :
    (s.setPipeline id p).pipelines id = p := if_pos rfl

@[simp] theorem indices_setPipeline (id : String) (p : Option Pipeline) :
    (s.setPipeline id p).indices = s.indices := rfl

@[simp] theorem indices_setIndex_self (index : String) (ds : Option (List Document)) :
    (s.setIndex index ds).indices index = ds := if_pos rfl

@[simp] theorem pipelines_setIndex (index : String) (ds : Option (List Document)) :
    (s.setIndex index ds).pipelines = s.pipelines := rfl

@[simp] theorem afterAll_nil : s.afterAll [] = s := rfl

@[simp] theorem afterAll_cons (c : Call) (cs : List Call) :
    s.afterAll (c :: cs) = (s.after c).afterAll cs := rfl

theorem afterAll_append (first second : List Call) :
    s.afterAll (first ++ second) = (s.afterAll first).afterAll second := List.foldl_append

end Store

end FeedHarvest.Search
