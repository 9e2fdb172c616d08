import FeedHarvest.Text.Quoted
import FeedHarvest.Yaml.Basic

/-!
# YAML trees in messages

A message that refuses a tree shows it with the names of its types. Keys of mappings that are truth
values, numbers or strings are shown bare.
-/

namespace FeedHarvest.Yaml

/-- Exponents from -5 to 15 are positional, and no exponent has a plus sign. -/
def numberLayout : Number.Layout := ⟨-5, 15, false⟩

def Number.text : Yaml.Number → String
  | .int n => toString n
  | .float x => String.ofList (numberLayout.text x)
  | .infinity false => ".inf"
  | .infinity true => "-.inf"
  | .nan => ".nan"

/-- A tag with the mark in front. -/
def tagText (tag : String) : String := "!" ++ tag

mutual

def shown : Yaml → String
  | .null => "Null"
  | .bool b => "Bool(" ++ toString b ++ ")"
  | .number n => "Number(" ++ n.text ++ ")"
  | .string s => "String(" ++ Text.quoted s ++ ")"
  | .sequence items => "Sequence [" ++ ", ".intercalate (shownItems items) ++ "]"
  | .mapping [] => "Mapping \x7b\x7d"
  | .mapping entries => "Mapping \x7b" ++ ", ".intercalate (shownEntries entries) ++ "\x7d"
  | .tagged tag v => "TaggedValue \x7b tag: " ++ tagText tag ++ ", value: " ++ shown v ++ " \x7d"

def shownKey : Yaml → String
  | .bool b => toString b
  | .number n => n.text
  | .string s => Text.quoted s
  | .null => "Null"
  | .sequence items => "Sequence [" ++ ", ".intercalate (shownItems items) ++ "]"
  | .mapping [] => "Mapping \x7b\x7d"
  | .mapping entries => "Mapping \x7b" ++ ", ".intercalate (shownEntries entries) ++ "\x7d"
  | .tagged tag v => "TaggedValue \x7b tag: " ++ tagText tag ++ ", value: " ++ shown v ++ " \x7d"

def shownItems : List Yaml → List String
  | [] => []
  | x :: xs => shown x :: shownItems xs

def shownEntries : List (Yaml × Yaml) → List String
  | [] => []
  | (k, v) :: es => (shownKey k ++ ": " ++ shown v) :: shownEntries es

end

end FeedHarvest.Yaml
