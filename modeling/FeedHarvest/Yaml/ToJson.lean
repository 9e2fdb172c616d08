import FeedHarvest.Json.Writer
import FeedHarvest.Yaml.Shown

/-!
# YAML trees as JSON

A YAML tree becomes JSON if every key of its mappings has a text: strings, truth values and finite
numbers do. Numbers that are not finite become null, and a tag becomes the name of an object's one
member.
-/

namespace FeedHarvest.Yaml

/-- Why a tree has no form in JSON. -/
inductive KeyError where
  /-- A key that is null or a collection. -/
  | noText
  /-- A key that is no finite number. -/
  | notFinite
deriving DecidableEq, Repr

def Number.toJson : Yaml.Number → Json
  | .int n => .number (.int n)
  | .float x => .number (.float x)
  | .infinity _ | .nan => .null

def keyText : Yaml → Except KeyError String
  | .string s => .ok s
  | .bool b => .ok (toString b)
  | .number (.int n) => .ok (String.ofList (Json.intText n))
  | .number (.float x) => .ok (String.ofList (Json.numberLayout.text x))
  | .number (.infinity _) | .number .nan => .error .notFinite
  | .null | .sequence _ | .mapping _ | .tagged _ _ => .error .noText

mutual

def toJson : Yaml → Except KeyError Json
  | .null => .ok .null
  | .bool b => .ok (.bool b)
  | .number n => .ok n.toJson
  | .string s => .ok (.string s)
  | .sequence items => do return .array (← itemsToJson items)
  | .mapping entries => do return .object (← entriesToJson [] entries)
  | .tagged tag v => do return .object [(tagText tag, ← toJson v)]

def itemsToJson : List Yaml → Except KeyError (List Json)
  | [] => .ok []
  | x :: xs => do
    let v ← toJson x
    let vs ← itemsToJson xs
    return v :: vs

/-- Entries as JSON after the members of `before`; of two keys with one text the later wins. -/
def entriesToJson (before : Json.Members) : List (Yaml × Yaml) → Except KeyError Json.Members
  | [] => .ok before
  | (k, v) :: es => do
    let key ← keyText k
    let value ← toJson v
    entriesToJson (before.insert key value) es

end

end FeedHarvest.Yaml
