import FeedHarvest.Json.Writer

/-!
# Steps of a pipeline

A step is one thing that the search engine does to a document on its way into the index. A step over
a collection wraps the step done to each element, which sees the element under a name of its own.

A step is described to the engine as a JSON object with one member, whose name is the kind. Two
kinds have no processor of their own in the engine: copying trims into another field, and dropping
leading characters replaces a pattern by nothing.
-/

namespace FeedHarvest.Pipeline

/-- The name under which a step over a collection sees the element. -/
def elementField : String := "_ingest._value"

inductive Step where
  /-- Moves a field. -/
  | rename (field target : String)
  /-- Copies a field, which stays. -/
  | copy (field target : String)
  /-- Gives a field a value. -/
  | setConstant (field : String) (value : Json)
  | lowercase (field : String) (ignoreMissing : Bool)
  | uppercase (field : String) (ignoreMissing : Bool)
  /-- Replaces every match of a pattern. -/
  | gsub (field pattern replacement : String) (ignoreMissing : Bool)
  /-- Drops leading characters. -/
  | substringFrom (field : String) (offset : Nat) (ignoreMissing : Bool)
  /-- Cuts a text into a collection. -/
  | split (field separator : String) (ignoreMissing : Bool)
  /-- Reads a date in one of the formats. -/
  | reformatDate (field target : String) (formats : List String) (ignoreFailure : Bool)
  /-- Asks an external service for a value. -/
  | lookup (field target urlPrefix path : String) (multiValue ignoreMissing : Bool)
  /-- Does a step to each element of a collection. -/
  | foreach (field : String) (step : Step)
  /-- Flattens a collection of collections, without repetitions and sorted. -/
  | coalesce (field : String)
deriving DecidableEq, Repr, Inhabited

namespace Step

/-- The kind under which the engine knows the step. -/
def kind : Step → String
  | rename .. => "rename"
  | copy .. => "trim"
  | setConstant .. => "set"
  | lowercase .. => "lowercase"
  | uppercase .. => "uppercase"
  | gsub .. | substringFrom .. => "gsub"
  | split .. => "split"
  | reformatDate .. => "date"
  | lookup .. => "json_api"
  | foreach .. => "foreach"
  | coalesce .. => "script"

def field : Step → String
  | rename f _ | copy f _ | setConstant f _ | lowercase f _ | uppercase f _ | gsub f _ _ _
  | substringFrom f _ _ | split f _ _ | reformatDate f _ _ _ | lookup f _ _ _ _ _ | foreach f _
  | coalesce f => f

/-- The step that does the work, inside all wrappers. -/
def innermost : Step → Step
  | foreach _ s => s.innermost
  | s => s

/-- Whether the step leaves a collection in its field. -/
def isSplit (s : Step) : Bool :=
  match s.innermost with
  | split .. => true
  | _ => false

/-- Whether the step may find several values. -/
def isMultiValueLookup (s : Step) : Bool :=
  match s.innermost with
  | lookup _ _ _ _ multiValue _ => multiValue
  | _ => false

/-! ## Scripts -/

/-- A character as it stands in a quoted literal of a script. -/
def scriptEscape (c : Char) : List Char :=
  if c == '\\' then ['\\', '\\'] else if c == '\'' then ['\\', '\''] else [c]

/-- A text as a quoted literal of a script. -/
def scriptLiteral (s : String) : String :=
  "'" ++ String.ofList (s.toList.flatMap scriptEscape) ++ "'"

/-- The script's text before, between and after the three places of the field's literal. -/
def scriptParts : List String :=
  ["if (ctx[",
    "] instanceof List) \x7b def flat = new ArrayList(); for (def value : ctx[",
    "]) \x7b if (value instanceof List) \x7b flat.addAll(value); \x7d " ++
    "else if (value != null) \x7b " ++
      "flat.add(value); \x7d \x7d ctx[",
    "] = flat.stream().distinct().sorted().collect(Collectors.toList()); \x7d"]

/-- The script that flattens the collection in a field, drops repetitions and sorts. -/
def coalesceScript (field : String) : String := (scriptLiteral field).intercalate scriptParts

/-- The pattern of so many characters at the start. -/
def leadingPattern (offset : Nat) : String := "^.\x7b" ++ toString offset ++ "\x7d"

/-! ## Descriptors -/

/-- What the engine is told about the step. -/
def toJson : Step → Json
  | rename f t => .object [("rename", .object [("field", .string f), ("target_field", .string t)])]
  | copy f t => .object [("trim", .object [("field", .string f), ("target_field", .string t)])]
  | setConstant f v => .object [("set", .object [("field", .string f), ("value", v)])]
  | lowercase f m =>
    .object [("lowercase", .object [("field", .string f), ("ignore_missing", .bool m)])]
  | uppercase f m =>
    .object [("uppercase", .object [("field", .string f), ("ignore_missing", .bool m)])]
  | gsub f p r m =>
    .object [("gsub", .object [("field", .string f), ("pattern", .string p),
      ("replacement", .string r), ("ignore_missing", .bool m)])]
  | substringFrom f n m =>
    .object [("gsub", .object [("field", .string f), ("pattern", .string (leadingPattern n)),
      ("replacement", .string ""), ("ignore_missing", .bool m)])]
  | split f s m =>
    .object [("split", .object [("field", .string f), ("separator", .string s),
      ("ignore_missing", .bool m)])]
  | reformatDate f t formats i =>
    .object [("date", .object [("field", .string f), ("target_field", .string t),
      ("formats", .array (formats.map .string)), ("ignore_failure", .bool i)])]
  | lookup f t u p v m =>
    .object [("json_api", .object [("field", .string f), ("target_field", .string t),
      ("json_path", .string p), ("url_prefix", .string u), ("multi_value", .bool v),
      ("ignore_missing", .bool m)])]
  | foreach f s =>
    .object [("foreach", .object [("field", .string f), ("processor", s.toJson),
      ("ignore_failure", .bool true)])]
  | coalesce f => .object [("script", .object [("source", .string (coalesceScript f))])]

end Step

end FeedHarvest.Pipeline
