import FeedHarvest.Text.Digits
import FeedHarvest.Text.HiddenTable

/-!
# Quoted text

Text in double quotes for people to read in a message: quotes, backslashes and line ends have
escapes of two characters, and a character that does not show is written as its number in braces.
-/

namespace FeedHarvest.Text

/-- Whether the character shows. -/
def isShown (c : Char) : Bool :=
  let n := c.toNat
  if n < 0x7F then 0x20 ≤ n else !hiddenRanges.any fun (lo, hi) ↦ lo ≤ n && n ≤ hi

/-- A character as it stands between quotes. -/
def quotedChar (c : Char) : List Char :=
  if c == '"' then ['\\', '"']
  else if c == '\\' then ['\\', '\\']
  else if c == '\n' then ['\\', 'n']
  else if c == '\r' then ['\\', 'r']
  else if c == '\t' then ['\\', 't']
  else if c == '\x00' then ['\\', '0']
  else if isShown c then [c]
  else '\\' :: 'u' :: '\x7b' :: Nat.toDigits 16 c.toNat ++ ['\x7d']

def quoted (s : String) : String := "\"" ++ String.ofList (s.toList.flatMap quotedChar) ++ "\""

/-- Texts in quotes between braces, with commas between them. -/
def quotedSet (ss : List String) : String := "\x7b" ++ ", ".intercalate (ss.map quoted) ++ "\x7d"

end FeedHarvest.Text
