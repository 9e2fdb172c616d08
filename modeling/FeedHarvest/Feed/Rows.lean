import FeedHarvest.Json.Reader
import FeedHarvest.Record.Basic

/-!
# JSON feeds

The rows of a JSON feed are the objects of an array: of the feed itself, or of its first member that
is an array with an object in it. An object without such a member is the only row.
-/

namespace FeedHarvest.Feed.Rows

def objects (vs : List Json) : List Record :=
  vs.filterMap fun v ↦ match v with
    | .object ms => some ms
    | _ => none

/-- The items of an array that holds an object. -/
def rowsOf? : Json → Option (List Json)
  | .array vs => if vs.any Json.isObject then some vs else none
  | _ => none

/-- What a value that has no rows is. -/
inductive Scalar where
  | null
  | bool
  | number
  | string
  deriving DecidableEq, Repr

def Scalar.name : Scalar → String
  | .null => "null"
  | .bool => "a boolean"
  | .number => "a number"
  | .string => "a string"

/-- The records of a value, or what it is instead. -/
def recordsOf : Json → Except Scalar (List Record)
  | .array vs => .ok (objects vs)
  | .object ms =>
    match ms.findSome? fun (_, v) ↦ rowsOf? v with
    | some vs => .ok (objects vs)
    | none => .ok [ms]
  | .null => .error .null
  | .bool _ => .error .bool
  | .number _ => .error .number
  | .string _ => .error .string

end FeedHarvest.Feed.Rows
