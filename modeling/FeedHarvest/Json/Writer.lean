import FeedHarvest.Json.Basic
import FeedHarvest.Number.Shortest

/-!
# Writing JSON

Two layouts of one format. The compact one has no blanks at all; the pretty one puts each item and
member on a line of its own, two spaces deeper than its container, and keeps an empty container on
one line. Strings escape only what they must: the quote, the backslash and the control characters
below U+0020.
-/

namespace FeedHarvest.Json

/-- Exponents from -5 to 15 are positional, and a positive exponent has a sign. -/
def numberLayout : Number.Layout := ⟨-5, 15, true⟩

def intText (n : Int) : List Char :=
  if n < 0 then '-' :: Text.decimal n.natAbs else Text.decimal n.natAbs

def Number.text : Json.Number → List Char
  | .int n => intText n
  | .float x => numberLayout.text x

/-- A character as it stands in a string. -/
def escape (c : Char) : List Char :=
  if c == '"' then ['\\', '"']
  else if c == '\\' then ['\\', '\\']
  else if c == '\x08' then ['\\', 'b']
  else if c == '\x0c' then ['\\', 'f']
  else if c == '\n' then ['\\', 'n']
  else if c == '\r' then ['\\', 'r']
  else if c == '\t' then ['\\', 't']
  else if c.toNat < 0x20 then
    ['\\', 'u', '0', '0', Text.digitChar (c.toNat / 16), Text.digitChar (c.toNat % 16)]
  else [c]

def quoted (s : String) : List Char := '"' :: s.toList.flatMap escape ++ ['"']

/-! ## Compact -/

mutual

def compactText : Json → List Char
  | .null => ['n', 'u', 'l', 'l']
  | .bool true => ['t', 'r', 'u', 'e']
  | .bool false => ['f', 'a', 'l', 's', 'e']
  | .number n => n.text
  | .string s => quoted s
  | .array items => '[' :: compactItems items ++ [']']
  | .object ms => '{' :: compactMembers ms ++ ['}']

def compactItems : List Json → List Char
  | [] => []
  | [v] => compactText v
  | v :: vs => compactText v ++ ',' :: compactItems vs

def compactMembers : List (String × Json) → List Char
  | [] => []
  | [(k, v)] => quoted k ++ ':' :: compactText v
  | (k, v) :: ms => quoted k ++ ':' :: (compactText v ++ ',' :: compactMembers ms)

end

/-- A value without blanks. -/
def compact (v : Json) : String := String.ofList (compactText v)

/-! ## Pretty -/

/-- The start of a line at a depth. -/
def newline (depth : Nat) : List Char := '\n' :: List.replicate (2 * depth) ' '

mutual

/-- A value whose container stands at `depth`. -/
def prettyText (depth : Nat) : Json → List Char
  | .array [] => ['[', ']']
  | .array items => '[' :: prettyItems (depth + 1) items ++ newline depth ++ [']']
  | .object [] => ['{', '}']
  | .object ms => '{' :: prettyMembers (depth + 1) ms ++ newline depth ++ ['}']
  | .null => ['n', 'u', 'l', 'l']
  | .bool true => ['t', 'r', 'u', 'e']
  | .bool false => ['f', 'a', 'l', 's', 'e']
  | .number n => n.text
  | .string s => quoted s

def prettyItems (depth : Nat) : List Json → List Char
  | [] => []
  | [v] => newline depth ++ prettyText depth v
  | v :: vs => newline depth ++ prettyText depth v ++ ',' :: prettyItems depth vs

def prettyMembers (depth : Nat) : List (String × Json) → List Char
  | [] => []
  | [(k, v)] => newline depth ++ quoted k ++ ':' :: ' ' :: prettyText depth v
  | (k, v) :: ms =>
    newline depth ++ quoted k ++ ':' :: ' ' :: (prettyText depth v ++ ',' :: prettyMembers depth ms)

end

/-- A value on indented lines. -/
def pretty (v : Json) : String := String.ofList (prettyText 0 v)

end FeedHarvest.Json
