import FeedHarvest.Record.Document

/-!
# What the search engine is told about an index

The settings that every index is created with, and the query that finds what earlier runs left
behind. Fields are mapped as they come; only the time of the run is declared a date, because queries
compare it.
-/

namespace FeedHarvest.Search

def wordsJson (ws : List String) : Json := .array (ws.map .string)

/-- An analyzer made of a tokenizer and filters. -/
def analyzer (tokenizer : String) (filters : List String) : Json :=
  .object [("type", .string "custom"), ("tokenizer", .string tokenizer),
    ("filter", wordsJson filters)]

def indexSettings (replicas : Nat) : Json :=
  .object [
    ("settings", .object [
      ("number_of_shards", .ofNat 1),
      ("number_of_replicas", .ofNat replicas),
      ("analysis", .object [
        ("analyzer", .object [
          ("snowball_asciifolding_nostop",
            analyzer "standard" ["asciifolding", "lowercase", "snowball"]),
          ("keyword_lowercase", analyzer "keyword" ["lowercase"])])])]),
    ("mappings", .object [
      ("dynamic", .bool true),
      ("properties", .object [(stampField, .object [("type", .string "date")])])])]

/-- The query for documents whose field is strictly before a time. What the run of that very time
wrote carries the same text, so it is not found. -/
def olderThan (field : String) (cutoff : Time.Instant) : Json :=
  .object [("query", .object [("range", .object [
    (field, .object [("lt", .string cutoff.stamp)])])])]

end FeedHarvest.Search
