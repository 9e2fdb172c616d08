import FeedHarvest.Time.Instant

/-!
# Data sources

A data source is a registered feed: who it is, where its feed is fetched from, the dictionary that
says how the feed maps onto indexed fields, and what the last visits left behind. A source is known
by its interface name and version, and nothing a visit does changes those.
-/

namespace FeedHarvest

/-- Where a data source stands relative to its search index. -/
inductive IngestState where
  /-- The index shows the stored data. -/
  | fresh
  /-- The stored data changed, or a rebuild failed, and the index does not show it. -/
  | dirty
  /-- A rebuild is under way. -/
  | rebuilding
deriving DecidableEq, Repr, Inhabited

/-- A registered feed. -/
structure DataSource where
  /-- The name of the interface, part of the identity. -/
  api : String
  /-- The version of the interface, part of the identity, below `2^32`. -/
  version : Nat
  /-- The name to display. -/
  name : String := ""
  description : Option String := none
  /-- Where the feed is fetched from. -/
  url : String := ""
  /-- The feed as it was last fetched. -/
  data : String := ""
  /-- The digest of the feed as it was last fetched. -/
  messageDigest : Option String := none
  /-- When the feed last changed. -/
  dataChangedAt : Option Time.Instant := none
  /-- When the feed was last fetched. -/
  dataImportedAt : Option Time.Instant := none
  published : Bool := true
  /-- Whether the source only fans queries out to other sources and holds no data. -/
  consolidated : Bool := false
  /-- The dictionary, in YAML. -/
  dictionary : String := ""
  ingestState : IngestState := .fresh
deriving DecidableEq, Repr, Inhabited

namespace DataSource

/-- Versions are 32-bit numbers. -/
def maxVersion : Nat := Nat.pow 2 32 - 1

/-- A published source that was never ingested; it is displayed under its interface name. -/
def register (api : String) (version : Nat) (url dictionary : String) : DataSource :=
  { api, version, name := api, url, dictionary }

/-- The identity for people to read. -/
def label (s : DataSource) : String := s.api ++ " v" ++ toString s.version

end DataSource

end FeedHarvest
