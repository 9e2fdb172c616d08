import FeedHarvest.Html.Reference.LowerTable
import FeedHarvest.Html.Reference.UpperTable
import FeedHarvest.Text.Digits

/-!
# Character references

A reference stands for one or two characters: `&` and a name of the table, or `&#` and a number. Of
several names that begin the text the longest counts, and some names are also known without their
semicolon. Text that only looks like a reference is no reference and stays as it is.

All functions here read the text *after* the ampersand.
-/

namespace FeedHarvest.Html.Reference

open FeedHarvest.Text

/-- What a reference says. -/
structure Reading where
  /-- The characters that it stands for. -/
  text : List Char
  /-- Whether its semicolon is there. -/
  closed : Bool
  /-- The text after it. -/
  rest : List Char

/-! ## Names -/

def groups : List Group :=
  upperAToM ++ upperNToZ ++ lowerAToC ++ lowerDToJ ++ lowerKToM ++ lowerNToQ ++ lowerRToT ++
    lowerUToZ

/-- The names that begin with two letters, without these, in ascending order. -/
def names (a b : Char) : List (String × String) :=
  match groups.find? fun g ↦ g.first == a && g.second == b with
  | some g => g.names
  | none => []

/-- The longest of the names that begins the text. Names are in ascending order, so of two that
begin a text the later is the longer. -/
def longest? (ns : List (String × String)) (cs : List Char) : Option (String × String) :=
  (ns.filter fun e ↦ e.1.toList.isPrefixOf cs).getLast?

def named? : List Char → Option Reading
  | a :: b :: cs => do
    let (name, text) ← longest? (names a b) cs
    return ⟨text.toList, name.toList.getLast? == some ';', cs.drop name.length⟩
  | _ => none

/-! ## Numbers -/

/-- What the numbers from 128 to 159 stand for in Windows-1252; five of them stand for themselves.
-/
def windows1252 : List Nat := [
  0x20AC, 0x81, 0x201A, 0x192, 0x201E, 0x2026, 0x2020, 0x2021, 0x2C6, 0x2030, 0x160, 0x2039, 0x152,
  0x8D, 0x17D, 0x8F, 0x90, 0x2018, 0x2019, 0x201C, 0x201D, 0x2022, 0x2013, 0x2014, 0x2DC, 0x2122,
  0x161, 0x203A, 0x153, 0x9D, 0x17E, 0x178]

/-- The character that replaces what cannot be shown. -/
def replacement : Char := '\uFFFD'

/-- The character of a number: numbers that are no character are replaced, and the range that is
control characters in Unicode is read as Windows-1252. -/
def character (n : Nat) : Char :=
  if 0x80 ≤ n && n ≤ 0x9F then Char.ofNat (windows1252.getD (n - 0x80) n)
  else if n == 0 || !n.isValidChar then replacement
  else Char.ofNat n

/-- A number in base `b`, with its semicolon if it is there. -/
def number? (b : Nat) (isDigit : Char → Bool) (cs : List Char) : Option Reading :=
  let digits := cs.takeWhile isDigit
  if digits.isEmpty then none
  else
    let text := [character (ofDigits b 0 digits)]
    match cs.dropWhile isDigit with
    | ';' :: rest => some ⟨text, true, rest⟩
    | rest => some ⟨text, false, rest⟩

/-! ## References -/

/-- The reference that the text is the rest of. -/
def read? : List Char → Option Reading
  | '#' :: 'x' :: cs => number? 16 isHexDigit cs
  | '#' :: 'X' :: cs => number? 16 isHexDigit cs
  | '#' :: cs => number? 10 isDigit cs
  | cs => named? cs

/-- Whether a character goes on with a name or begins an attribute's value. -/
def continuesName (c : Char) : Bool := c == '=' || c.isAlphanum

/-- The reference that an attribute's text is the rest of. A name without its semicolon that is
followed by a letter, a digit or an equals sign is no reference: addresses hold such text. -/
def readInAttribute? (cs : List Char) : Option Reading :=
  match read? cs with
  | some r =>
    if !r.closed && cs.head? != some '#' && r.rest.head?.any continuesName then none else some r
  | none => none

/-- The value of an attribute, its references replaced. The fuel is the text's length, as every
step reads at least one character. -/
def attributeValue : Nat → List Char → List Char
  | 0, _ | _, [] => []
  | fuel + 1, c :: cs =>
    if c == '&' then
      match readInAttribute? cs with
      | some r => r.text ++ attributeValue fuel r.rest
      | none => c :: attributeValue fuel cs
    else c :: attributeValue fuel cs

end FeedHarvest.Html.Reference
