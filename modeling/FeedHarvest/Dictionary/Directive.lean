import FeedHarvest.Json.Writer

/-!
# Directives

A directive asks for one operation on a field: by its bare name, or by its name with arguments. The
arguments are one value, a list of values, or values under keys; keyed arguments also have
positions, those in which they are written.
-/

namespace FeedHarvest.Dictionary

inductive Arguments where
  | none
  | scalar (value : Json)
  | positional (values : List Json)
  | keyed (pairs : List (String × Json))
deriving DecidableEq, Repr, Inhabited

namespace Arguments

def values : Arguments → List Json
  | none => []
  | scalar v => [v]
  | positional vs => vs
  | keyed pairs => pairs.map Prod.snd

/-- The first value under a key. -/
def get? (args : Arguments) (key : String) : Option Json :=
  match args with
  | keyed pairs => pairs.lookup key
  | _ => Option.none

def isEmpty (args : Arguments) : Bool := args.values.isEmpty

/-- The value under a key, else the one at a position. -/
def find? (args : Arguments) (position : Nat) (key : String) : Option Json :=
  (args.get? key).or args.values[position]?

end Arguments

/-- The text of a single value; null and collections have none. -/
def argumentText? : Json → Option String
  | .string s => some s
  | .number n => some (String.ofList n.text)
  | .bool b => some (toString b)
  | _ => none

inductive Directive where
  | bare (name : String)
  | structured (kind : String) (arguments : Arguments)
deriving DecidableEq, Repr, Inhabited

namespace Directive

def name : Directive → String
  | bare n => n
  | structured k _ => k

/-- The arguments; a bare name has none. -/
def arguments : Directive → Arguments
  | bare _ => .none
  | structured _ args => args

end Directive

end FeedHarvest.Dictionary
