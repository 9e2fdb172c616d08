import FeedHarvest.Yaml.ToJson

/-!
# What can be wrong with a dictionary

Either its text is no YAML, or it names an operation that does not exist, or something in it is
missing or of the wrong form. The causes of the last kind are listed one by one; their wording is in
one place.
-/

namespace FeedHarvest.Dictionary

/-- What is missing or of the wrong form. -/
inductive Flaw where
  | rootNotMap
  | fieldNameNotText
  | uniqueFieldsNotList
  | uniqueFieldNotText
  | fieldNotMap (field : String)
  | optionNotText (field option : String)
  | arrayNotBool (field : String)
  | transformationsNotList (field : String)
  | nestedPath (path : String)
  | noJson (cause : Yaml.KeyError)
  | directiveForm (value : Yaml)
  | directiveKindNotText
  | argumentKeyNotText
  | missingArgument (operation argument : String)
  | missingOffset (operation : String)
  | missingDateFormat
  | missingMappingArgument (argument : String)
  | multiValueNotBool
deriving Repr

/-- What is wrong with a dictionary. -/
inductive Error where
  /-- An operation that does not exist. -/
  | unsupported (operation : String)
  | incomplete (flaw : Flaw)
  /-- The text is no YAML. -/
  | unreadable
deriving Repr

def keyErrorText : Yaml.KeyError → String
  | .noText => "key must be a string"
  | .notFinite => "float key must be finite (got NaN or +/-inf)"

def Flaw.text : Flaw → String
  | rootNotMap => "dictionary must be a map"
  | fieldNameNotText => "field names must be strings"
  | uniqueFieldsNotList => "unique_fields must be a list"
  | uniqueFieldNotText => "unique_fields must list strings"
  | fieldNotMap f => "field '" ++ f ++ "' must be a map"
  | optionNotText f o => "field '" ++ f ++ "': '" ++ o ++ "' must be a string"
  | arrayNotBool f => "field '" ++ f ++ "': 'array' must be true or false"
  | transformationsNotList f => "field '" ++ f ++ "': 'transformations' must be a list"
  | nestedPath p => "nested path '" ++ p ++ "' must look like <container>.<inner>"
  | noJson e => "unsupported value: " ++ keyErrorText e
  | directiveForm v => "transformation must be a name or a single-key map, got " ++ v.shown
  | directiveKindNotText => "transformation kind must be a string"
  | argumentKeyNotText => "directive argument keys must be strings"
  | missingArgument op a => op ++ " requires a " ++ a ++ " argument"
  | missingOffset op => op ++ " requires a non-negative integer offset"
  | missingDateFormat => "reformat_date requires a date format"
  | missingMappingArgument a => "external_mapping requires '" ++ a ++ "'"
  | multiValueNotBool => "external_mapping 'multi_value' must be true or false"

/-- The text of an error. What is wrong with text that is no YAML is not told. -/
def Error.message : Error → String
  | unsupported op => "Unsupported transformation: " ++ op
  | incomplete flaw => "Schema incomplete: " ++ flaw.text
  | unreadable => "Schema parse error"

end FeedHarvest.Dictionary
