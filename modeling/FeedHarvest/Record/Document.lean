import FeedHarvest.Dictionary.Basic
import FeedHarvest.Record.Cleaning
import FeedHarvest.Record.Identity
import FeedHarvest.Text.Quoted
import FeedHarvest.Time.Rfc3339

/-!
# Documents

A run turns each record into a document for the search engine: the cleaned record under its
identity, stamped with the time of the run. The identity is taken before the stamp is set, so it
does not depend on the time, and a column of the stamp's name only gives the stamp its place.

Records that lack unique fields may share an identity. A run says so once, for all of them.
-/

namespace FeedHarvest

/-- What the search engine stores under an identity. -/
structure Document where
  id : String
  body : Json
  deriving DecidableEq

/-- The field that holds the time of the run. -/
def stampField : String := "_updated_at"

namespace Record

/-- The record with the time of a run. -/
def stamped (r : Record) (runAt : Time.Instant) : Record :=
  r.insert stampField (.string runAt.stamp)

def document (uniqueFields : List String) (runAt : Time.Instant) (r : Record) : Document :=
  ⟨r.cleaned.identity uniqueFields, .object (r.cleaned.stamped runAt)⟩

end Record

/-- That some records lack unique fields. -/
structure IdentityWarning where
  /-- How many records lack any. -/
  records : Nat
  /-- The fields that any of them lacks, each once, in the order of their characters. -/
  fields : List String
  deriving DecidableEq, Repr

namespace IdentityWarning

/-- What is said about such records. -/
def message : String := "Records lack unique fields and may share a document id"

def fieldsText (w : IdentityWarning) : String := Text.quotedSet w.fields

/-- The warning about a list of records, if there is anything to say. -/
def of? (uniqueFields : List String) (rs : List Record) : Option IdentityWarning :=
  let missing := (rs.map fun r ↦ r.missingFields uniqueFields).filter fun m ↦ !m.isEmpty
  if missing.isEmpty then none
  else some ⟨missing.length, missing.flatten.eraseDups.mergeSort fun a b ↦ decide (a ≤ b)⟩

end IdentityWarning

namespace Dictionary

def documents (d : Dictionary) (rs : List Record) (runAt : Time.Instant) : List Document :=
  rs.map (Record.document d.uniqueFields runAt)

/-- The warning about the records of one run. -/
def identityWarning? (d : Dictionary) (rs : List Record) : Option IdentityWarning :=
  IdentityWarning.of? d.uniqueFields (rs.map Record.cleaned)

end Dictionary

end FeedHarvest
