import FeedHarvest.Text.LowerTable

/-!
# Lower case

The full lower-casing of Unicode, without language-specific rules. Every letter has one lower-case
form, with two exceptions: the dotted capital I becomes two characters, and the capital sigma
becomes a final sigma at the end of a word. A sigma ends a word when a letter with case comes before
it and none after it, both found by looking through the characters that case ignores.
-/

namespace FeedHarvest.Text

namespace Case

/-- Whether a code point lies in one of the ranges. -/
def inRanges (ranges : Array (Nat × Nat)) (n : Nat) : Bool :=
  ranges.any fun (lo, hi) ↦ lo ≤ n && n ≤ hi

def isCased (c : Char) : Bool := inRanges casedRanges c.toNat

/-- Whether case rules look through the character. -/
def isIgnorable (c : Char) : Bool := inRanges ignorableRanges c.toNat

/-- Whether the run holds the code point. -/
def LowerRange.holds (r : LowerRange) (n : Nat) : Bool :=
  r.first ≤ n && n ≤ r.last && (n - r.first) % r.step == 0

/-- The lower-case form of a letter that has one of one character; any other character itself. -/
def lowerChar (c : Char) : Char :=
  match lowerRanges.find? (·.holds c.toNat) with
  | some r => Char.ofNat ((c.toNat : Int) + r.distance).toNat
  | none => c

/-- Whether the first character that case does not ignore has case. -/
def meetsCased (cs : List Char) : Bool :=
  match cs.dropWhile isIgnorable with
  | c :: _ => isCased c
  | [] => false

/-- The lower-case form of a character with the text before it, last character first, and after it.
-/
def lowerAt (before : List Char) (c : Char) (after : List Char) : List Char :=
  if c == 'Σ' then [if meetsCased before && !meetsCased after then 'ς' else 'σ']
  else if c == 'İ' then ['i', '\u0307']
  else [lowerChar c]

/-- The lower-case form of a text whose beginning, last character first, is `before`. -/
def lowerFrom (before : List Char) : List Char → List Char
  | [] => []
  | c :: after => lowerAt before c after ++ lowerFrom (c :: before) after

end Case

def lower (s : String) : String := String.ofList (Case.lowerFrom [] s.toList)

end FeedHarvest.Text
