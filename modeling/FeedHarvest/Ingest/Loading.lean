import FeedHarvest.Search.Call

/-!
# Bulk loading

Documents are loaded in batches, with a bound on the calls that are open at once. Which open call is
answered next is up to the engine, so loading is a state with two kinds of step: a batch is started
while the bound allows it, and an open call is answered. After a failure nothing is started any
more. A load has come to an end with its first failure, or when all it was given is answered.

A *schedule* resolves what the engine leaves open. It may look at all that has happened, and no
state of a load comes back, so each order of steps is the one that some schedule chooses. Two of
them are given names. In the *prompt* one every call is answered before the next is started; in the
*held* one calls are answered, the oldest first, only when no more can be started.
-/

namespace FeedHarvest.Ingest

/-- The sizes of a load as they are asked for. -/
structure LoadLimits where
  /-- The documents in a batch. -/
  batchSize : Nat := 25
  /-- The calls that may be open at once. -/
  openCalls : Nat := 1
  deriving DecidableEq, Repr

/-- The sizes that are in force: at least one document and one call. -/
def LoadLimits.inForce (l : LoadLimits) : LoadLimits := ⟨max l.batchSize 1, max l.openCalls 1⟩

/-- A list cut into parts of a size of at least one; only the last part may be shorter. -/
def chunks {α : Type} (size : Nat) : List α → List (List α)
  | [] => []
  | a :: as => (a :: as).take (max size 1) :: chunks size ((a :: as).drop (max size 1))
termination_by as => as.length
decreasing_by
  simp only [List.length_drop, List.length_cons]
  omega

def LoadLimits.batches (l : LoadLimits) (documents : List Document) : List (List Document) :=
  chunks l.inForce.batchSize documents

/-- A batch that was started, with its number. -/
abbrev BulkCall := List Document × Nat

/-- Where a load stands. -/
structure Load where
  /-- The batches that have not been started. -/
  waiting : List (List Document)
  /-- The open calls, the oldest first. -/
  opened : List BulkCall := []
  /-- The batches started so far, in order. -/
  started : List (List Document) := []
  /-- The calls answered so far, in the order of the answers. -/
  answered : List (BulkCall × Search.Answer) := []
  /-- The most calls that were open at once. -/
  peak : Nat := 0

namespace Load

def ofBatches (batches : List (List Document)) : Load := { waiting := batches }

def failure (l : Load) : Option Search.Error := l.answered.findSome? fun a ↦ Search.Answer.error? a.2

/-- What the load of documents has come to, if it has come to an end: the first failure, or their
number. -/
def result? (documents : List Document) (l : Load) : Option (Except Search.Error Nat) :=
  match l.failure with
  | some e => some (.error e)
  | none => if l.waiting.isEmpty && l.opened.isEmpty then some (.ok documents.length) else none

/-- Starts the next batch if the bound allows it. -/
def start? (bound : Nat) (l : Load) : Option Load :=
  match l.waiting with
  | b :: bs =>
    if l.opened.length < bound && l.failure.isNone then
      some { l with
        waiting := bs
        opened := l.opened ++ [(b, l.started.length)]
        started := l.started ++ [b]
        peak := max l.peak (l.opened.length + 1) }
    else none
  | [] => none

/-- Has the open call at a place answered. -/
def finish? (place : Nat) (answer : BulkCall → Search.Answer) (l : Load) : Option Load :=
  l.opened[place]?.map fun call ↦
    { l with
      opened := l.opened.eraseIdx place
      answered := l.answered ++ [(call, answer call)] }

/-- One step of a load, whatever the engine does. -/
inductive Step (bound : Nat) : Load → Load → Prop where
  | start {l l' : Load} (h : l.start? bound = some l') : Step bound l l'
  | finish {l l' : Load} (place : Nat) (answer : BulkCall → Search.Answer)
      (h : l.finish? place answer = some l') : Step bound l l'

end Load

/-- A way of answering open calls. At each point of a load it says which open call is answered next,
by its place, or that another is started first. -/
structure Schedule where
  place? : Load → Option Nat

namespace Schedule

/-- Each call is answered before the next is started. -/
def prompt : Schedule := ⟨fun _ ↦ some 0⟩

/-- Calls are answered when no more can be started. -/
def held : Schedule := ⟨fun _ ↦ none⟩

end Schedule

namespace Load

/-- The next step of a load on a schedule. A call that is not open gives way to a start, and a start
that is not allowed to the oldest open call. -/
def next? (bound : Nat) (schedule : Schedule) (answer : Load → BulkCall → Search.Answer)
    (l : Load) : Option Load :=
  ((schedule.place? l).bind fun place ↦ l.finish? place (answer l)).or
    ((l.start? bound).or (l.finish? 0 (answer l)))

/-- Takes steps on a schedule until there is nothing to do or a call failed. -/
def run (bound : Nat) (schedule : Schedule) (answer : Load → BulkCall → Search.Answer) :
    Nat → Load → Load
  | 0, l => l
  | fuel + 1, l =>
    if l.failure.isSome then l
    else
      match l.next? bound schedule answer with
      | some l => run bound schedule answer fuel l
      | none => l

end Load

/-- A load from its first step to its last. Each batch takes two steps. -/
def LoadLimits.run (limits : LoadLimits) (schedule : Schedule)
    (answer : Load → BulkCall → Search.Answer) (documents : List Document) : Load :=
  let batches := limits.batches documents
  (Load.ofBatches batches).run limits.inForce.openCalls schedule answer (2 * batches.length)

/-- A load whose answers are known by the numbers of the batches. -/
def LoadLimits.load (limits : LoadLimits) (schedule : Schedule)
    (answer : Nat → List Document → Search.Answer) (documents : List Document) : Load :=
  limits.run schedule (fun _ call ↦ answer call.2 call.1) documents

end FeedHarvest.Ingest
