import FeedHarvest.Pipeline.Step

/-!
# Pipelines

A pipeline is a description and the steps in the order in which the engine takes them. It can be
written as the JSON object that registers it, or as a listing for people with one numbered line for
each step.
-/

namespace FeedHarvest

structure Pipeline where
  /-- What the engine shows about the pipeline. -/
  description : String
  /-- The steps in order. -/
  steps : List Pipeline.Step
deriving DecidableEq, Repr, Inhabited

namespace Pipeline

def named (name : String) (steps : List Step) : Pipeline := ⟨"Pipeline for " ++ name, steps⟩

/-- What the engine is told about the pipeline. -/
def toJson (p : Pipeline) : Json :=
  .object [("description", .string p.description), ("processors", .array (p.steps.map Step.toJson))]

/-- A number, filled with blanks on the left to three characters. -/
def lineNumber (n : Nat) : List Char :=
  let ds := Text.decimal n
  List.replicate (3 - ds.length) ' ' ++ ds

def line (n : Nat) (s : Step) : String :=
  String.ofList (lineNumber n) ++ ". " ++ s.toJson.compact

/-- The lines of steps, numbered from `n`. -/
def lines (n : Nat) : List Step → List String
  | [] => []
  | s :: rest => line n s :: lines (n + 1) rest

/-- The description, then a line for each step. -/
def listing (p : Pipeline) : String := "\n".intercalate (p.description :: lines 1 p.steps)

end Pipeline

end FeedHarvest
