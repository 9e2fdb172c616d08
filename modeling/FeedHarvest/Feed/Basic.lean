import FeedHarvest.Feed.Delimited
import FeedHarvest.Feed.Markup
import FeedHarvest.Feed.Rows

/-!
# Feeds

A feed is one text. Its format is inferred from how it begins, and each format has its own way of
making records. Byte-order marks in front of the text are not part of it.
-/

namespace FeedHarvest.Feed

inductive Format where
  | xml
  | json
  | tsv
  | csv
  deriving DecidableEq, Repr

def Format.name : Format → String
  | .xml => "xml"
  | .json => "json"
  | .tsv => "tsv"
  | .csv => "csv"

/-- The text without byte-order marks in front. -/
def body (cs : List Char) : List Char := cs.dropWhile (· == '\uFEFF')

/-- The format of a feed: an XML declaration comes first, then a bracket, then any tab. -/
def format (cs : List Char) : Format :=
  if "<?xml".toList.isPrefixOf (body cs) then .xml
  else if (Text.trimStart (body cs)).head?.any fun c ↦ c == '\x7b' || c == '[' then .json
  else if cs.contains '\t' then .tsv
  else .csv

/-- What can be wrong with a feed. -/
inductive Flaw where
  | json
  /-- A JSON feed without rows. -/
  | scalar (found : Rows.Scalar)
  | xml (flaw : Markup.Flaw)
  deriving DecidableEq, Repr

def Flaw.message : Flaw → String
  | .json => "malformed JSON"
  | .scalar found => "JSON feed must be an array or an object, found " ++ found.name
  | .xml .malformed => "malformed XML"
  | .xml .attributes => "malformed XML attribute"
  | .xml .unclosed => "malformed XML: unclosed elements"

def records (cs : List Char) : Except Flaw (List Record) :=
  match format cs with
  | .xml => (Markup.records (body cs)).mapError .xml
  | .json =>
    match Json.parse? (body cs) with
    | some v => (Rows.recordsOf v).mapError .scalar
    | none => .error .json
  | .tsv => .ok (Delimited.records '\t' (body cs))
  | .csv => .ok (Delimited.records ',' (body cs))

end FeedHarvest.Feed
