import FeedHarvest.Text.Digits

/-!
# Text and attributes in XML

Five named references and any numbered one stand for characters; every other ampersand is an error.
An attribute is a key, an equals sign and a quoted value, with or without blanks around them; no
element has two attributes of one key.
-/

namespace FeedHarvest.Xml

open FeedHarvest.Text

/-- XML's blanks. -/
def isSpace (c : Char) : Bool := c == ' ' || c == '\r' || c == '\n' || c == '\t'

/-- The part of a name after its first colon, or all of it. -/
def localName (name : List Char) : List Char :=
  if name.contains ':' then (name.dropWhile (· != ':')).drop 1 else name

/-! ## References -/

/-- The character of a number, which must be one and must not be zero. -/
def character? (n : Nat) : Option Char :=
  if n != 0 && n.isValidChar then some (Char.ofNat n) else none

/-- The character of a reference, by what stands between its marks. -/
def reference? (name : List Char) : Option Char :=
  match name with
  | '#' :: 'x' :: ds => (natOfHex? ds).bind character?
  | '#' :: ds => (natOfDecimal? ds).bind character?
  | _ => [("lt", '<'), ("gt", '>'), ("amp", '&'), ("apos", '\x27'), ("quot", '"')].lookup
      (String.ofList name)

/-- A text with its references replaced; `none` when one is not known or not closed. `name` is what
has been read of a reference, its last character first. -/
def resolve? (name : Option (List Char)) : List Char → Option (List Char)
  | [] => if name.isSome then none else some []
  | c :: cs =>
    match name with
    | none => if c == '&' then resolve? (some []) cs else (resolve? none cs).map (c :: ·)
    | some n =>
      if c == ';' then do
        let x ← reference? n.reverse
        return x :: (← resolve? none cs)
      else if c == '&' then none
      else resolve? (some (c :: n)) cs

def unescape? (cs : List Char) : Option (List Char) := resolve? none cs

/-! ## Attributes -/

/-- The keys and values of attributes. `seen` holds the keys before. The fuel is the text's length,
as every attribute takes at least one character. -/
def readAttributes? : Nat → List (List Char) → List Char → Option (List (List Char × List Char))
  | 0, _, _ => some []
  | fuel + 1, seen, cs =>
    match cs.dropWhile isSpace with
    | [] => some []
    | k :: cs => do
      let inKey (c : Char) : Bool := c != '=' && !isSpace c
      let key := k :: cs.takeWhile inKey
      let '=' :: cs := (cs.dropWhile inKey).dropWhile isSpace | none
      if seen.contains key then none
      let mark :: cs := cs.dropWhile isSpace | none
      if mark != '"' && mark != '\x27' then none
      let _ :: rest := cs.dropWhile (· != mark) | none
      let value ← unescape? (cs.takeWhile (· != mark))
      return (key, value) :: (← readAttributes? fuel (key :: seen) rest)

/-- The keys and values of an element's attributes; `none` when they are malformed. -/
def attributes? (cs : List Char) : Option (List (List Char × List Char)) :=
  readAttributes? cs.length [] cs

end FeedHarvest.Xml
