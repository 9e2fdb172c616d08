import FeedHarvest.Dictionary.Directive
import FeedHarvest.Dictionary.Error

/-!
# Dictionaries

A dictionary says how the columns of a feed map onto indexed fields. Its fields are in the order in
which the pipeline treats them; a dictionary that was read has each name once, one that was built
may repeat names. The unique fields are those whose values make up a record's identity; without any,
all of a record's columns do.
-/

namespace FeedHarvest

namespace Dictionary

/-- Where a value stands inside each element of a collection. -/
structure NestedPath where
  /-- The field that holds the collection. -/
  container : String
  /-- The field inside each element. -/
  inner : String
deriving DecidableEq, Repr, Inhabited

/-- The parts of a text around its first point. -/
def splitAtPoint : List Char → Option (List Char × List Char)
  | [] => none
  | '.' :: rest => some ([], rest)
  | c :: rest => (splitAtPoint rest).map fun (a, b) ↦ (c :: a, b)

/-- A path with text on both sides of its first point. -/
def NestedPath.parse (path : String) : Except Error NestedPath :=
  match splitAtPoint path.toList with
  | some (a, b) =>
    if a.isEmpty || b.isEmpty then .error (.incomplete (.nestedPath path))
    else .ok ⟨String.ofList a, String.ofList b⟩
  | none => .error (.incomplete (.nestedPath path))

/-- How one field is produced. -/
structure FieldSpec where
  /-- The column that is moved into the field. -/
  source : Option String := none
  /-- The column that is copied into the field. -/
  copyFrom : Option String := none
  /-- The value given to the field. -/
  constant : Option Json := none
  /-- Whether the field holds a collection. -/
  isArray : Bool := false
  /-- Where the values to work on stand, if not in the field itself. -/
  nestedPath : Option NestedPath := none
  /-- What is done to the value, in order. -/
  transformations : List Directive := []
deriving DecidableEq, Repr, Inhabited

/-- Whether the field needs no step at all. -/
def FieldSpec.isPassive (s : FieldSpec) : Bool :=
  s.transformations.isEmpty && s.source.isNone && s.copyFrom.isNone && s.constant.isNone

end Dictionary

structure Dictionary where
  /-- The fields in order. -/
  fields : List (String × Dictionary.FieldSpec) := []
  /-- The fields that make up a record's identity. -/
  uniqueFields : List String := []
deriving DecidableEq, Repr, Inhabited

namespace Dictionary

def field? (d : Dictionary) (name : String) : Option FieldSpec := d.fields.lookup name

end Dictionary

end FeedHarvest
