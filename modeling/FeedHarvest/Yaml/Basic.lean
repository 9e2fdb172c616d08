import FeedHarvest.Number.Shortest

/-!
# YAML trees

What a YAML document says once its notation is read: scalars have their types, aliases are replaced
by what they stand for, and a node with a tag of its own keeps it. The keys of a mapping are any
trees and are pairwise different under `Yaml.same`, which ignores the order of a mapping's entries.
-/

namespace FeedHarvest

inductive Yaml.Number where
  /-- An integer from `-2^63` to `2^64 - 1`. -/
  | int (value : Int)
  | float (value : Number.Binary64)
  | infinity (negative : Bool)
  | nan
deriving DecidableEq, Repr, Inhabited

inductive Yaml where
  | null
  | bool (value : Bool)
  | number (value : Yaml.Number)
  | string (text : String)
  | sequence (items : List Yaml)
  | mapping (entries : List (Yaml × Yaml))
  /-- A node with a tag of its own; the tag is kept without the mark in front. -/
  | tagged (tag : String) (value : Yaml)
deriving Repr, Inhabited

namespace Yaml

/-! ## Sameness -/

/-- Equal numbers: the zeros of both signs are equal, and so are any two NaNs. -/
def Number.same : Yaml.Number → Yaml.Number → Bool
  | .float x, .float y => x == y || (x.isZero && y.isZero)
  | a, b => a == b

mutual

/-- Equal trees, mappings compared without regard to order. -/
def same : Yaml → Yaml → Bool
  | .null, .null => true
  | .bool a, .bool b => a == b
  | .number a, .number b => a.same b
  | .string a, .string b => a == b
  | .sequence a, .sequence b => sameItems a b
  | .mapping a, .mapping b => a.length == b.length && sameEntries a b
  | .tagged s a, .tagged t b => s == t && same a b
  | _, _ => false

def sameItems : List Yaml → List Yaml → Bool
  | [], [] => true
  | x :: xs, y :: ys => same x y && sameItems xs ys
  | _, _ => false

/-- Whether every entry of the first mapping has an equal one in the second. -/
def sameEntries : List (Yaml × Yaml) → List (Yaml × Yaml) → Bool
  | [], _ => true
  | (k, v) :: rest, es => es.any (fun e ↦ same k e.1 && same v e.2) && sameEntries rest es

end

/-! ## Views -/

/-- The text of a string, looking through tags. -/
def text? : Yaml → Option String
  | .string s => some s
  | .tagged _ v => v.text?
  | _ => none

/-- The truth value of a boolean, looking through tags. -/
def bool? : Yaml → Option Bool
  | .bool b => some b
  | .tagged _ v => v.bool?
  | _ => none

/-- Whether the tree is null, looking through tags. -/
def isNull : Yaml → Bool
  | .null => true
  | .tagged _ v => v.isNull
  | _ => false

end Yaml

end FeedHarvest
