import FeedHarvest.Record.Basic
import FeedHarvest.Text.Blank

/-!
# Delimited feeds

Rows of cells, a line each, cut by a delimiter. A cell that begins with a quote goes on to the next
quote, whatever stands between; a quote inside it is written twice. Lines without any character are
no rows. Nothing is malformed: a quote that is never closed holds the rest of the feed.

The first row names the fields. A record has the cells of a row under the names of their columns.
-/

namespace FeedHarvest.Feed.Delimited

/-- Where in a row the next character stands. -/
inductive Place where
  /-- Before a row. -/
  | outside
  /-- Before a cell. -/
  | before
  | plain
  | quoted
  /-- Behind a quote inside a quoted cell, which ends the cell or is the first of two. -/
  | closed
  deriving DecidableEq

/-- Line breaks: a pair of both makes one row and one empty line. -/
def isBreak (c : Char) : Bool := c == '\n' || c == '\r'

/-- The rows of a text. What has been read of the row's cell, and the row's cells before it, are
held with the latest first. -/
def scan (delimiter : Char) : Place → List Char → List (List Char) → List Char →
    List (List (List Char))
  | .outside, _, _, [] => []
  | _, cell, cells, [] => [(cell.reverse :: cells).reverse]
  | .quoted, cell, cells, c :: cs =>
    if c == '"' then scan delimiter .closed cell cells cs
    else scan delimiter .quoted (c :: cell) cells cs
  | place, cell, cells, c :: cs =>
    if c == delimiter then scan delimiter .before [] (cell.reverse :: cells) cs
    else if isBreak c then
      let rest := scan delimiter .outside [] [] cs
      if place = .outside then rest else (cell.reverse :: cells).reverse :: rest
    else if c == '"' && place = .closed then scan delimiter .quoted (c :: cell) cells cs
    else if c == '"' && place != .plain then scan delimiter .quoted [] cells cs
    else scan delimiter .plain (c :: cell) cells cs

def rows (delimiter : Char) (cs : List Char) : List (List (List Char)) :=
  scan delimiter .outside [] [] cs

/-- Whether all cells of a row are blank. -/
def isBlankRow (row : List (List Char)) : Bool := row.all fun cell ↦ (Text.trim cell).isEmpty

/-- The record of a row. Cells without a name are left out; of several cells with one name the last
counts, at the place of the first. -/
def record (headers row : List (List Char)) : Record :=
  let named := (headers.zip row).filter fun (name, _) ↦ !name.isEmpty
  Json.Members.ofList
    (named.map fun (name, cell) ↦ (String.ofList name, .string (String.ofList cell)))

/-- The records of a feed: one for every row with a cell that is not blank. -/
def records (delimiter : Char) (cs : List Char) : List Record :=
  match rows delimiter cs with
  | [] => []
  | headers :: rows =>
    (rows.filter fun row ↦ !isBlankRow row).map (record (headers.map Text.trim))

end FeedHarvest.Feed.Delimited
