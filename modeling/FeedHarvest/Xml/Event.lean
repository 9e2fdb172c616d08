import FeedHarvest.Xml.Text

/-!
# Events of an XML text

An XML text is read as a sequence of events: tags, text, and things that carry no data. End tags
must match the start tags that are open. What stands inside a tag behind its name, and the
references in a text, are left unread: nobody may want them, and then their faults do not count. So
a fault of the text itself is the last event, and what comes before it can still be used.

Blanks at both ends of a text are not part of it, and a text of blanks is no event.
-/

namespace FeedHarvest.Xml

/-- A piece of an XML text. -/
inductive Event where
  /-- A start tag, with its attributes as written. -/
  | start (name attributes : List Char)
  /-- A tag of an element without content. -/
  | empty (name attributes : List Char)
  /-- A text with its references as written. -/
  | text (raw : List Char)
  /-- A section in which nothing is markup. -/
  | literal (text : List Char)
  | finish
  /-- A comment, an instruction or a declaration. -/
  | other
  /-- The text cannot be read further. -/
  | fault
  deriving DecidableEq

/-- The text before a closing angle bracket outside of quotes, and the text behind it. -/
def insideTag (quote : Option Char) : List Char → Option (List Char × List Char)
  | [] => none
  | c :: cs =>
    match quote with
    | none =>
      if c == '>' then some ([], cs)
      else
        let quote := if c == '"' || c == '\x27' then some c else none
        (insideTag quote cs).map fun (inside, rest) ↦ (c :: inside, rest)
    | some q =>
      (insideTag (if c == q then none else quote) cs).map fun (inside, rest) ↦ (c :: inside, rest)

/-- The text before a mark, and the text behind it. -/
def before (mark : List Char) : List Char → Option (List Char × List Char)
  | [] => none
  | c :: cs =>
    if mark.isPrefixOf (c :: cs) then some ([], (c :: cs).drop mark.length)
    else (before mark cs).map fun (text, rest) ↦ (c :: text, rest)

/-- The text of a document type, whose angle brackets are balanced, and the text behind it. -/
def insideDoctype (depth : Nat) : List Char → Option (List Char × List Char)
  | [] => none
  | c :: cs =>
    if c == '>' && depth == 0 then some ([], cs)
    else
      let depth := if c == '<' then depth + 1 else if c == '>' then depth - 1 else depth
      (insideDoctype depth cs).map fun (text, rest) ↦ (c :: text, rest)

/-- What one piece of markup is: its event, the open elements behind it and the text behind it. -/
abbrev Markup := Option (Event × List (List Char) × List Char)

/-- What follows an opening angle bracket and an exclamation mark. -/
def declaration? (opened : List (List Char)) (cs : List Char) : Markup :=
  match cs with
  | '-' :: '-' :: r => do
    let (_, rest) ← before "-->".toList r
    return (.other, opened, rest)
  | '[' :: _ =>
    if "[CDATA[".toList.isPrefixOf cs then do
      let (text, rest) ← before "]]>".toList (cs.drop 7)
      return (.literal text, opened, rest)
    else none
  | _ =>
    if (cs.take 7).map Char.toUpper == "DOCTYPE".toList then do
      let (text, rest) ← insideDoctype 0 (cs.drop 7)
      if text.all isSpace then none
      return (.other, opened, rest)
    else none

/-- A tag's name and the rest of its inside. -/
def splitName (inside : List Char) : List Char × List Char :=
  (inside.takeWhile (!isSpace ·), inside.dropWhile (!isSpace ·))

/-- A start tag, or the tag of an element without content. -/
def startTag? (opened : List (List Char)) (cs : List Char) : Markup := do
  let (inside, rest) ← insideTag none cs
  if inside.getLast? == some '/' then
    let (name, attributes) := splitName inside.dropLast
    return (.empty name attributes, opened, rest)
  else
    let (name, attributes) := splitName inside
    return (.start name attributes, name :: opened, rest)

/-- An end tag, which must name the innermost open element. -/
def endTag? (opened : List (List Char)) (cs : List Char) : Markup := do
  let (inside, rest) ← insideTag none cs
  let name := (inside.reverse.dropWhile isSpace).reverse
  let name := if name.isEmpty then inside else name
  match opened with
  | o :: os => if o = name then some (.finish, os, rest) else none
  | [] => none

/-- What follows an opening angle bracket. -/
def markup? (opened : List (List Char)) (cs : List Char) : Markup :=
  match cs with
  | '!' :: r => declaration? opened r
  | '?' :: '>' :: _ => none
  | '?' :: r => do
    let (_, rest) ← before "?>".toList r
    return (.other, opened, rest)
  | '/' :: r => endTag? opened r
  | [] => none
  | _ => startTag? opened cs

/-- The events of a text with open elements around it. The fuel is the text's length, as each round
takes an opening angle bracket. -/
def read : Nat → List (List Char) → List Char → List Event
  | 0, _, _ => []
  | fuel + 1, opened, cs =>
    let cs := cs.dropWhile isSpace
    let text := cs.takeWhile (· != '<')
    let trimmed := (text.reverse.dropWhile isSpace).reverse
    let following := match cs.dropWhile (· != '<') with
      | [] => []
      | _ :: cs =>
        match markup? opened cs with
        | some (e, opened, rest) => e :: read fuel opened rest
        | none => [.fault]
    if text.isEmpty then following else .text trimmed :: following

def events (cs : List Char) : List Event := read (cs.length + 1) [] cs

end FeedHarvest.Xml
