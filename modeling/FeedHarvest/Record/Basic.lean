import FeedHarvest.Json.Basic

/-!
# Records

A record is a row of a feed: its fields in order, no two of one name. It is what an object of the
data format holds.
-/

namespace FeedHarvest

/-- A row of a feed: its fields in order. -/
abbrev Record := Json.Members

end FeedHarvest
