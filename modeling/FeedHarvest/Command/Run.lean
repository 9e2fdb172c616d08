import FeedHarvest.Command.EnvFile
import FeedHarvest.Command.Line
import FeedHarvest.Command.Session

/-!
# Running commands

A run of the program is a function of its arguments, its environment, the files, the network and the
clock. It ends with a code, with what it printed, and with the files as they are then. Nothing but a
pipeline is ever printed.
-/

namespace FeedHarvest

/-- What a run leaves behind. -/
structure Finished where
  /-- Zero for success, one for failure, two for a misuse of the command line. -/
  code : Nat
  output : String := ""
  files : Files
  /-- The requests made, in order. -/
  requests : List Http.Request := []

namespace Command

/-- The text of a pipeline: a listing, or indented JSON. -/
def pipelineText (p : Pipeline) (json : Bool) : String :=
  if json then p.toJson.pretty else p.listing

/-- The text of the pipeline of a dictionary's file. -/
def compiled (files : Files) (path name : String) (json : Bool) : Except CommandError String :=
  match files.text? path with
  | none => .error .file
  | some text =>
    match Dictionary.compileText name text with
    | .ok p => .ok (pipelineText p json)
    | .error e => .error (.dictionary e)

/-- The error of freshening several sources: there is one exactly when one of them failed. -/
def freshenError? (results : List (Except CommandError Ingest.Outcome)) : Option CommandError :=
  let failed := results.countP fun r ↦ r.toOption.isNone
  if failed = 0 then none else some (.sources failed results.length)

/-- Does work in a session, if one can be begun. -/
def inSession (lookup : Settings.Lookup) (files : Files) (network : Http.Network)
    (work : Session → Session × Bool) : Finished :=
  match Settings.ofLookup (EnvFile.inFolder files lookup) with
  | .error _ => { code := 1, files }
  | .ok settings =>
    match Session.begin? settings network files with
    | .error _ => { code := 1, files, requests := Session.requestsToBegin settings }
    | .ok session =>
      let (s, isDone) := work session
      { code := if isDone then 0 else 1, files := s.files, requests := s.requests }

def run (lookup : Settings.Lookup) (files : Files) (network : Http.Network)
    (clock : Nat → Moment) : Command → Finished
  | .compile path name json =>
    match compiled files path name json with
    | .ok text => { code := 0, output := text ++ "\n", files }
    | .error _ => { code := 1, files }
  | .ingest path =>
    inSession lookup files network fun s ↦
      let (s, result) := s.visit (clock 0) .ingest path
      (s, result.toOption.isSome)
  | .freshen paths =>
    inSession lookup files network fun s ↦
      let (s, results) := s.freshenAll clock 0 paths
      (s, (freshenError? results).isNone)

def runLine (lookup : Settings.Lookup) (files : Files) (network : Http.Network)
    (clock : Nat → Moment) (args : List String) : Finished :=
  match parse args with
  | .ok c => run lookup files network clock c
  | .error .help => { code := 0, files }
  | .error .misuse => { code := 2, files }

end Command

end FeedHarvest
