import FeedHarvest.Html.Fragment
import FeedHarvest.Record.Basic
import FeedHarvest.Text.Blank

/-!
# Cleaning

The cells of a feed hold text as it was written for a page: with markup, references and broken
lines. Cleaning leaves the words. Markup is taken away before references are read, so text that only
speaks of markup survives. Numbers, truth values and objects stay as they are.
-/

namespace FeedHarvest

/-- Whether a text needs no reading as markup. -/
def isPlainText (cs : List Char) : Bool := cs.all fun c ↦ c != '<' && c != '&'

/-- The words of a text, without markup, joined by single spaces. -/
def cleanText (cs : List Char) : List Char :=
  Text.squish (if isPlainText cs then cs else Html.fragmentText cs)

/-- The words of a text, without markup, joined by single spaces. -/
def cleaned (s : String) : String := String.ofList (cleanText s.toList)

mutual

/-- Cleans a value: a string, or the strings of an array. -/
def cleanValue : Json → Json
  | .string s => .string (cleaned s)
  | .array vs => .array (cleanValues vs)
  | v => v

def cleanValues : List Json → List Json
  | [] => []
  | v :: vs => cleanValue v :: cleanValues vs

end

theorem cleanValues_eq_map (vs : List Json) : cleanValues vs = vs.map cleanValue := by
  induction vs with
  | nil => rfl
  | cons v vs ih => rw [cleanValues, ih, List.map_cons]

def Record.cleaned (r : Record) : Record := r.map fun (k, v) ↦ (k, cleanValue v)

end FeedHarvest
