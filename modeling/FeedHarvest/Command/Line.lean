/-!
# The command line

The first argument names a command, and each command takes paths and options. A double dash alone
ends the options; a single dash alone is a path. No option may be given twice, and every fault of
the line is a misuse, whichever it is. Asking for help, before any fault, is neither.
-/

namespace FeedHarvest

/-- What the command line asks for. -/
inductive Command where
  /-- Freshens the data sources in files. -/
  | freshen (sources : List String)
  /-- Loads the stored data of a data source again. -/
  | ingest (source : String)
  /-- Shows the pipeline of a dictionary, as a listing or as JSON. -/
  | compile (dictionary name : String) (json : Bool)
  deriving DecidableEq, Repr

/-- The paths of the files that a command reads first. -/
def Command.paths : Command → List String
  | .freshen sources => sources
  | .ingest source => [source]
  | .compile dictionary .. => [dictionary]

/-- Why a command line asks for nothing. -/
inductive Usage where
  | help
  | misuse
  deriving DecidableEq, Repr

namespace Command

/-- The names of the commands. -/
inductive Verb where
  | freshen
  | ingest
  | compile
  deriving DecidableEq, Repr

def Verb.ofName? : String → Option Verb
  | "freshen" => some .freshen
  | "ingest" => some .ingest
  | "compile" => some .compile
  | _ => none

/-- What has been read of a command's arguments. -/
structure Line where
  /-- The paths in order. -/
  paths : List String := []
  name : Option String := none
  json : Bool := false

/-- Whether an argument is an option by its form. -/
def isOption (a : String) : Bool := a.startsWith "-" && a != "-"

namespace Line

/-- Takes a path. Only `freshen` takes more than one. -/
def addPath (verb : Verb) (l : Line) (a : String) : Except Usage Line :=
  if a.isEmpty || (verb != .freshen && !l.paths.isEmpty) then .error .misuse
  else .ok { l with paths := l.paths ++ [a] }

def addName (l : Line) (a : String) : Except Usage Line :=
  if l.name.isSome then .error .misuse else .ok { l with name := some a }

/-- Takes the wish for JSON. -/
def addJson (l : Line) : Except Usage Line :=
  if l.json then .error .misuse else .ok { l with json := true }

def read (verb : Verb) (l : Line) : List String → Except Usage Line
  | [] => .ok l
  | "--" :: rest => rest.foldlM (addPath verb) l
  | "--help" :: _ => .error .help
  | "--json" :: rest =>
    if verb = .compile then do (← l.addJson).read verb rest else .error .misuse
  | ["--name"] => .error .misuse
  | "--name" :: a :: rest =>
    if verb = .compile && !isOption a then do (← l.addName a).read verb rest else .error .misuse
  | a :: rest =>
    if a.startsWith "--name=" then
      if verb = .compile then do (← l.addName (a.drop 7).toString).read verb rest
      else .error .misuse
    else if a.startsWith "-h" then .error .help
    else if isOption a then .error .misuse
    else do (← l.addPath verb a).read verb rest

/-- The command of a line that has been read. -/
def command (verb : Verb) (l : Line) : Except Usage Command :=
  match verb, l.paths with
  | _, [] => .error .misuse
  | .freshen, paths => .ok (.freshen paths)
  | .ingest, path :: _ => .ok (.ingest path)
  | .compile, path :: _ => .ok (.compile path (l.name.getD "dictionary") l.json)

end Line

/-- The names that help can be asked about. -/
def helpTopics : List String := ["freshen", "ingest", "compile", "help"]

def parse : List String → Except Usage Command
  | [] => .error .misuse
  | "--help" :: _ => .error .help
  | ["help"] => .error .help
  | ["help", topic] => .error (if helpTopics.contains topic then .help else .misuse)
  | a :: rest =>
    if a.startsWith "-h" then .error .help
    else
      match Verb.ofName? a with
      | some verb => do (← Line.read verb {} rest).command verb
      | none => .error .misuse

end Command

end FeedHarvest
