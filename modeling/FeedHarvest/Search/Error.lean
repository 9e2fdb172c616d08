import FeedHarvest.Http.Status

/-!
# Errors of the search engine

An error says which kind of call failed and why. Causes for which only the engine's address or wire
would have words carry none: then the kind alone is the message.
-/

namespace FeedHarvest.Search

/-- What failed. -/
inductive ErrorKind where
  | connection
  | indexCreation
  | indexDeletion
  | pipeline
  | bulkIndexing
  | pruning
  | refresh
  /-- An answer could not be understood. -/
  | answer
  deriving DecidableEq, Repr

def ErrorKind.label : ErrorKind → String
  | connection => "Connection error"
  | indexCreation => "Index creation error"
  | indexDeletion => "Index deletion error"
  | pipeline => "Pipeline error"
  | bulkIndexing => "Bulk index error"
  | pruning => "Delete by query error"
  | refresh => "Refresh error"
  | answer => "Parse error"

/-- A document that was refused, by its identity and the engine's reason. -/
structure Refusal where
  id : String
  reason : String
  deriving DecidableEq, Repr

/-- Why it failed. -/
inductive Cause where
  /-- The engine cannot be reached, its address is none, or its answer is not of the agreed form. -/
  | unspoken
  /-- The engine answered with a status that is no success. -/
  | status (code : Nat) (body : String)
  /-- The engine refused documents. -/
  | refused (items : List Refusal)
  /-- The engine's own words. -/
  | reported (text : String)
  deriving DecidableEq, Repr

def quotedRefusals : Nat := 5

def Cause.text? : Cause → Option String
  | unspoken => none
  | status code body => some ("Request failed with status " ++ Http.statusText code ++ ": " ++ body)
  | refused items =>
    let quoted := (items.take quotedRefusals).map fun i ↦ i.id ++ ": " ++ i.reason
    some (toString items.length ++ " item(s) failed: " ++ "; ".intercalate quoted)
  | reported text => some text

structure Error where
  kind : ErrorKind
  cause : Cause
  deriving DecidableEq, Repr

def Error.message (e : Error) : String :=
  match e.cause.text? with
  | some text => e.kind.label ++ ": " ++ text
  | none => e.kind.label

end FeedHarvest.Search
