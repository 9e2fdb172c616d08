import FeedHarvest.Dictionary.Basic
import FeedHarvest.Text.Blank
import FeedHarvest.Yaml.Reader

/-!
# Reading dictionaries

A dictionary is a YAML mapping whose keys are the names of fields, with one key set apart for the
list of unique fields. A field is a mapping of options, and an option that is null counts as absent,
with one exception: a null under `array` still hides `is_array`. Options of other names are passed
over.

The options of a field are checked in a fixed order, and the first that is wrong is the error:
`array`, the nested path, the constant, the transformations, the source, the column to copy.
-/

namespace FeedHarvest.Dictionary

def uniqueFieldsKey : String := "unique_fields"

def option? (entries : List (Yaml × Yaml)) (name : String) : Option Yaml :=
  (entries.find? fun e ↦
    match e.1 with
    | .string s => s == name
    | _ => false).map Prod.snd

def jsonOf (v : Yaml) : Except Error Json :=
  match v.toJson with
  | .ok j => .ok j
  | .error e => .error (.incomplete (.noJson e))

def keyedArguments : List (Yaml × Yaml) → Except Error (List (String × Json))
  | [] => .ok []
  | (k, v) :: es => do
    let key ← match k.text? with
      | some s => .ok s
      | none => .error (.incomplete .argumentKeyNotText)
    let value ← jsonOf v
    let rest ← keyedArguments es
    return (key, value) :: rest

def Arguments.ofYaml : Yaml → Except Error Arguments
  | .null => .ok .none
  | .sequence items => do return .positional (← items.mapM jsonOf)
  | .mapping entries => do return .keyed (← keyedArguments entries)
  | v => do return .scalar (← jsonOf v)

/-- A directive: a name, or a mapping of one name to its arguments. -/
def Directive.ofYaml : Yaml → Except Error Directive
  | .string name => .ok (.bare name)
  | .mapping [(k, args)] =>
    match k.text? with
    | some kind => do return .structured kind (← Arguments.ofYaml args)
    | none => .error (.incomplete .directiveKindNotText)
  | v => .error (.incomplete (.directiveForm v))

/-- An option that must be a text if it is given. -/
def textOption (entries : List (Yaml × Yaml)) (field name : String) :
    Except Error (Option String) :=
  match option? entries name with
  | none | some .null => .ok none
  | some (.string s) => .ok (some s)
  | some _ => .error (.incomplete (.optionNotText field name))

/-- Whether the field holds a collection. -/
def arrayOption (entries : List (Yaml × Yaml)) (field : String) : Except Error Bool :=
  match (option? entries "array").or (option? entries "is_array") with
  | none | some .null => .ok false
  | some (.bool b) => .ok b
  | some _ => .error (.incomplete (.arrayNotBool field))

/-- The nested path; both names of the option must hold a text if they are given. -/
def pathOption (entries : List (Yaml × Yaml)) (field : String) :
    Except Error (Option NestedPath) := do
  let first ← textOption entries field "search_path"
  let second ← textOption entries field "nested_path"
  match first.or second with
  | none => return none
  | some path => return some (← NestedPath.parse path)

def constantOption (entries : List (Yaml × Yaml)) : Except Error (Option Json) :=
  match option? entries "constant" with
  | none | some .null => .ok none
  | some v => do return some (← jsonOf v)

def transformationsOption (entries : List (Yaml × Yaml)) (field : String) :
    Except Error (List Directive) :=
  match option? entries "transformations" with
  | none | some .null => .ok []
  | some (.sequence items) => items.mapM Directive.ofYaml
  | some _ => .error (.incomplete (.transformationsNotList field))

def FieldSpec.ofYaml (field : String) : Yaml → Except Error FieldSpec
  | .null => .ok {}
  | .mapping entries => do
    let isArray ← arrayOption entries field
    let nestedPath ← pathOption entries field
    let constant ← constantOption entries
    let transformations ← transformationsOption entries field
    let source ← textOption entries field "source"
    let copyFrom ← textOption entries field "copy_from"
    return { source, copyFrom, constant, isArray, nestedPath, transformations }
  | _ => .error (.incomplete (.fieldNotMap field))

def uniqueFieldsOf : Yaml → Except Error (List String)
  | .null => .ok []
  | .sequence items => items.mapM fun v ↦
    match v.text? with
    | some s => .ok s
    | none => .error (.incomplete .uniqueFieldNotText)
  | _ => .error (.incomplete .uniqueFieldsNotList)

/-- The entries of the root, added to a dictionary in order. -/
def ofEntries (d : Dictionary) : List (Yaml × Yaml) → Except Error Dictionary
  | [] => .ok d
  | (k, v) :: es =>
    match k.text? with
    | none => .error (.incomplete .fieldNameNotText)
    | some name =>
      if name == uniqueFieldsKey then do
        ofEntries { d with uniqueFields := ← uniqueFieldsOf v } es
      else do
        let spec ← FieldSpec.ofYaml name v
        ofEntries { d with fields := d.fields ++ [(name, spec)] } es

def ofYaml : Yaml → Except Error Dictionary
  | .null => .ok {}
  | .mapping entries => ofEntries {} entries
  | _ => .error (.incomplete .rootNotMap)

/-- A dictionary from its text; blank text is an empty dictionary. -/
def parse (text : String) : Except Error Dictionary :=
  if (Text.trim text.toList).isEmpty then .ok {}
  else
    match Yaml.parse? text.toList with
    | none => .error .unreadable
    | some v => ofYaml v

end FeedHarvest.Dictionary
