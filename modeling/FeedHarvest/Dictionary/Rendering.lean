import FeedHarvest.Dictionary.Basic
import FeedHarvest.Pipeline.Basic
import FeedHarvest.Text.Blank

/-!
# Rendering directives

Each directive becomes one step on one field. Two kinds have renderings of their own when they come
with arguments; every other directive, and every bare name, is one of the string operations. A
string operation takes each argument from its key, or else from its position.
-/

namespace FeedHarvest.Dictionary

def stringOperations : List String := ["downcase", "from", "gsub", "split", "upcase"]

/-- The kinds with renderings of their own. -/
inductive DedicatedKind where
  | reformatDate
  | externalMapping
deriving DecidableEq, Repr

namespace DedicatedKind

def name : DedicatedKind → String
  | reformatDate => "reformat_date"
  | externalMapping => "external_mapping"

def ofName? (s : String) : Option DedicatedKind :=
  [reformatDate, externalMapping].find? (·.name == s)

end DedicatedKind

/-- The text of an argument that a string operation needs. -/
def textArgument (operation : String) (args : Arguments) (position : Nat) (key : String) :
    Except Error String :=
  match (args.find? position key).bind argumentText? with
  | some s => .ok s
  | none => .error (.incomplete (.missingArgument operation key))

/-- An offset: a 64-bit count, as a number or as a text between blanks. -/
def offsetOf? : Json → Option Nat
  | .string s => Text.count? (Text.trim s.toList)
  | v => v.asNat?.filter (· ≤ Text.maxCount)

def offsetArgument (operation : String) (args : Arguments) : Except Error Nat :=
  match (args.find? 0 "offset").bind offsetOf? with
  | some n => .ok n
  | none => .error (.incomplete (.missingOffset operation))

def renderString (operation field : String) (args : Arguments) : Except Error Pipeline.Step :=
  if operation == "downcase" then .ok (.lowercase field true)
  else if operation == "upcase" then .ok (.uppercase field true)
  else if operation == "gsub" then do
    let pattern ← textArgument operation args 0 "pattern"
    let replacement ← textArgument operation args 1 "replacement"
    return .gsub field pattern replacement true
  else if operation == "split" then do
    return .split field (← textArgument operation args 0 "separator") true
  else if operation == "from" then do
    return .substringFrom field (← offsetArgument operation args) true
  else .error (.unsupported operation)

/-- The step that reformats a date in place. -/
def renderDate (field : String) (args : Arguments) : Except Error Pipeline.Step :=
  let format := match args with
    | .keyed _ => args.get? "format"
    | _ => args.values.head?
  match format.bind argumentText? with
  | some s => .ok (.reformatDate field field [s] true)
  | none => .error (.incomplete .missingDateFormat)

/-- The text of an argument that a mapping needs. -/
def mappingArgument (args : Arguments) (key : String) : Except Error String :=
  match (args.get? key).bind argumentText? with
  | some s => .ok s
  | none => .error (.incomplete (.missingMappingArgument key))

/-- Whether a mapping may find several values. -/
def multiValueArgument (args : Arguments) : Except Error Bool :=
  match args.get? "multi_value" with
  | none | some .null => .ok false
  | some (.bool b) => .ok b
  | some _ => .error (.incomplete .multiValueNotBool)

/-- The step that asks an external service for a value in place. -/
def renderMapping (field : String) (args : Arguments) : Except Error Pipeline.Step := do
  let url ← mappingArgument args "url"
  let path ← mappingArgument args "result_path"
  let multiValue ← multiValueArgument args
  return .lookup field field url path multiValue true

def render (field : String) : Directive → Except Error Pipeline.Step
  | .bare name => renderString name field .none
  | .structured kind args =>
    match DedicatedKind.ofName? kind with
    | some .reformatDate => renderDate field args
    | some .externalMapping => renderMapping field args
    | none => renderString kind field args

end FeedHarvest.Dictionary
