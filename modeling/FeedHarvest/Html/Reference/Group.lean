/-!
# Groups of named references

The names of a markup text's character references are found by their first two letters: a group
holds the rest of every such name, with the semicolon where it has one, beside the text that the
name stands for.
-/

namespace FeedHarvest.Html.Reference

/-- The named references that share their first two letters. -/
structure Group where
  /-- The first letter. -/
  first : Char
  /-- The second letter. -/
  second : Char
  /-- The rest of each name, and what the name stands for. -/
  names : List (String × String)

end FeedHarvest.Html.Reference
