import FeedHarvest.Digest.Sha3
import FeedHarvest.Json.Writer
import FeedHarvest.Record.Basic

/-!
# Identities of records

A record is known by its unique fields: the digest of their texts in the order in which the
dictionary names them. Without unique fields all fields count, as `name=text` in the order of the
names. The texts are joined by a control character that feeds do not hold, so that moving text from
one field to the next gives another identity.

The text that is digested, `identityText`, stands on its own, since what it tells apart is a matter
of text and not of digests.
-/

namespace FeedHarvest.Record

/-- The character between the texts of two fields. -/
def unitSeparator : String := "\x1f"

/-- The text of a field for identities: nothing for a missing or null field, a string as it is, and
JSON for all else. -/
def fieldText : Option Json → String
  | none | some .null => ""
  | some (.string s) => s
  | some v => v.compact

/-- A field as it stands in an identity made of all fields. -/
def namedText (r : Record) (name : String) : String := name ++ "=" ++ fieldText (r.get? name)

/-- The names of the fields in the order of their characters. -/
def sortedNames (r : Record) : List String := r.keys.mergeSort fun a b ↦ decide (a ≤ b)

/-- The text that a record is known by. -/
def identityText (r : Record) (uniqueFields : List String) : String :=
  unitSeparator.intercalate
    (if uniqueFields.isEmpty then r.sortedNames.map r.namedText
      else uniqueFields.map fun name ↦ fieldText (r.get? name))

def identity (r : Record) (uniqueFields : List String) : String :=
  Digest.ofText (r.identityText uniqueFields)

/-- Whether a record has no use for identities in a field. -/
def lacks (r : Record) (name : String) : Bool :=
  match r.get? name with
  | none | some .null => true
  | some _ => false

/-- The unique fields that a record lacks. -/
def missingFields (r : Record) (uniqueFields : List String) : List String :=
  uniqueFields.filter r.lacks

end FeedHarvest.Record
