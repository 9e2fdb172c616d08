import FeedHarvest.Html.Reference.Basic

/-!
# Tokens of a markup text

A markup text is cut into tags, characters and things without text: comments and document types. How
a text is cut depends on where it stands: inside some elements only the end tag of that very element
counts as markup, and the tree says which. So the lexer reads one piece at a time, is told what
content it reads, and answers with the content that follows.

Line breaks have been made single line feeds before.
-/

namespace FeedHarvest.Html

/-- A tag: its name in lower case, and its attributes by name, each name once. -/
structure Tag where
  name : String
  attributes : List (String × String) := []
  /-- Whether a slash stands before the tag's end. -/
  selfClosing : Bool := false

namespace Tag

def get? (t : Tag) (name : String) : Option String := t.attributes.lookup name

/-- Whether two tags have one name and the same attributes, in any order. -/
def alike (t u : Tag) : Bool :=
  t.name == u.name && t.attributes.length == u.attributes.length &&
    t.attributes.all u.attributes.contains

end Tag

/-- A piece of a markup text. -/
inductive Token where
  | startTag (tag : Tag)
  | endTag (name : String)
  | text (c : Char)
  /-- The character zero, which most places drop. -/
  | null
  | comment
  | doctype
  /-- A fault of the text that leaves nothing else behind. -/
  | fault

/-! ## Characters -/

/-- The characters that separate attributes. -/
def isGap (c : Char) : Bool := c == ' ' || c == '\n' || c == '\t' || c == '\x0c'

/-- Whether a tag's name ends before a character. -/
def endsName (c : Char) : Bool := isGap c || c == '/' || c == '>'

/-- A character of a name: letters become lower case, and zero is replaced. -/
def nameChar (c : Char) : Char := if c == '\x00' then Reference.replacement else c.toLower

/-- A character of text that is not markup: zero is replaced. -/
def plainChar (c : Char) : Char := if c == '\x00' then Reference.replacement else c

/-! ## Tags -/

/-- Where in a tag the next character stands. -/
inductive TagPlace where
  | name
  | beforeAttribute
  | attribute
  | afterAttribute
  | beforeValue
  | quoted (mark : Char)
  | bare
  | afterQuoted
  | slash

/-- What has been read of a tag. All texts are held with their last character first, and so is the
list of attributes, whose names may still repeat. -/
structure TagScan where
  place : TagPlace := .name
  name : List Char := []
  attributes : List (List Char × List Char) := []

namespace TagScan

def addAttribute (s : TagScan) (c : Char) : TagScan :=
  { s with place := .attribute, attributes := ([nameChar c], []) :: s.attributes }

/-- A character more of the last attribute's name. -/
def addToName (s : TagScan) (c : Char) : TagScan :=
  match s.attributes with
  | (n, v) :: as => { s with attributes := (nameChar c :: n, v) :: as }
  | [] => s

/-- A character more of the last attribute's value. -/
def addToValue (s : TagScan) (c : Char) : TagScan :=
  match s.attributes with
  | (n, v) :: as => { s with attributes := (n, plainChar c :: v) :: as }
  | [] => s

/-- Reads a character between attributes. -/
def between (s : TagScan) (c : Char) : TagScan :=
  if isGap c then { s with place := .beforeAttribute }
  else if c == '/' then { s with place := .slash }
  else s.addAttribute c

/-- Reads a character that does not end the tag. -/
def step (s : TagScan) (c : Char) : TagScan :=
  match s.place with
  | .name =>
    if isGap c || c == '/' then s.between c else { s with name := nameChar c :: s.name }
  | .beforeAttribute | .afterQuoted | .slash => s.between c
  | .attribute =>
    if isGap c then { s with place := .afterAttribute }
    else if c == '/' then { s with place := .slash }
    else if c == '=' then { s with place := .beforeValue }
    else s.addToName c
  | .afterAttribute =>
    if isGap c then s
    else if c == '=' then { s with place := .beforeValue }
    else s.between c
  | .beforeValue =>
    if isGap c then s
    else if c == '"' || c == '\x27' then { s with place := .quoted c }
    else { s.addToValue c with place := .bare }
  | .quoted mark => if c == mark then { s with place := .afterQuoted } else s.addToValue c
  | .bare => if isGap c then { s with place := .beforeAttribute } else s.addToValue c

/-- Whether a character ends the tag. -/
def ends (s : TagScan) (c : Char) : Bool :=
  c == '>' && match s.place with
    | .quoted _ => false
    | _ => true

/-- The attributes in order; of those of one name the first. -/
def settled : List (List Char × List Char) → List (String × String)
  | [] => []
  | (n, v) :: as =>
    let before := settled as
    let name := String.ofList n.reverse
    if (before.lookup name).isSome then before
    else before ++ [(name, String.ofList (Reference.attributeValue v.length v.reverse))]

def tag (s : TagScan) : Tag where
  name := String.ofList s.name.reverse
  attributes := settled s.attributes
  selfClosing := match s.place with
    | .slash => true
    | _ => false

/-- The tag that a text goes on with, and the text after it; `none` when the text ends first. -/
def run (s : TagScan) : List Char → Option (Tag × List Char)
  | [] => none
  | c :: cs => if s.ends c then some (s.tag, cs) else (s.step c).run cs

end TagScan

/-- The tag whose name begins the text, and the text after it. -/
def tag? (cs : List Char) : Option (Tag × List Char) := TagScan.run {} cs

/-! ## Things without text -/

/-- Where in a comment the next character stands, as far as it matters for the comment's end. -/
inductive CommentPlace where
  | start
  | startDash
  | body
  | dash
  | dashes
  | bang

/-- The place after a character that does not end the comment. -/
def CommentPlace.step : CommentPlace → Char → CommentPlace
  | .start, '-' => .startDash
  | .startDash, '-' | .dash, '-' | .dashes, '-' => .dashes
  | .body, '-' | .bang, '-' => .dash
  | .dashes, '!' => .bang
  | _, _ => .body

/-- Whether a closing angle bracket ends the comment here. -/
def CommentPlace.mayEnd : CommentPlace → Bool
  | .start | .startDash | .dashes | .bang => true
  | .body | .dash => false

def afterComment (p : CommentPlace) : List Char → List Char
  | [] => []
  | c :: cs => if c == '>' && p.mayEnd then cs else afterComment (p.step c) cs

/-- The text after the next closing angle bracket. -/
def afterBracket (cs : List Char) : List Char := (cs.dropWhile (· != '>')).drop 1

/-- The text before the end of a literal section, and the text after it. -/
def literalSection : List Char → List Char × List Char
  | ']' :: ']' :: '>' :: cs => ([], cs)
  | [] => ([], [])
  | c :: cs =>
    let (text, rest) := literalSection cs
    (c :: text, rest)

/-! ## Content -/

/-- What of a script has been read: outside a comment, inside one, or inside a script element that
stands in one. The number counts the dashes just read, up to two. -/
inductive ScriptPlace where
  | outside
  | hidden (dashes : Nat)
  | nested (dashes : Nat)

/-- What kind of text is read. -/
inductive Content where
  /-- Tags and references count. -/
  | markup
  /-- References and the end tag of the named element count. -/
  | escapable (name : String)
  /-- Only the end tag of the named element counts. -/
  | raw (name : String)
  /-- A script, whose end tag may be hidden. -/
  | script (place : ScriptPlace)
  /-- Nothing counts any more. -/
  | plain

/-- What the lexer read: tokens, the content that follows, and the text after them. -/
structure Lexed where
  tokens : List Token
  content : Content
  rest : List Char

/-- The token of a character that stands for itself in markup. -/
def characterToken (c : Char) : Token := if c == '\x00' then .null else .text c

/-- A reference, or its ampersand. -/
def lexReference (content : Content) (cs : List Char) : Lexed :=
  match Reference.read? cs with
  | some r =>
    let text := r.text.map Token.text
    ⟨if r.closed then text else .fault :: text, content, r.rest⟩
  | none => ⟨[.text '&'], content, cs⟩

/-- Whether the text begins with a word, in any letter case. -/
def beginsWith (word : String) (cs : List Char) : Bool :=
  (cs.take word.length).map Char.toLower == word.toList

/-- What follows an opening angle bracket and an exclamation mark. Literal sections count in foreign
elements only. -/
def lexDeclaration (foreign : Bool) (cs : List Char) : Lexed :=
  match cs with
  | '-' :: '-' :: r => ⟨[.comment], .markup, afterComment .start r⟩
  | _ =>
    if beginsWith "doctype" cs then ⟨[.doctype], .markup, afterBracket cs⟩
    else if foreign && "[CDATA[".toList.isPrefixOf cs then
      let (text, rest) := literalSection (cs.drop 7)
      ⟨text.map characterToken, .markup, rest⟩
    else ⟨[.comment], .markup, afterBracket cs⟩

/-- A tag; one that the text's end cuts off leaves nothing. -/
def lexTag (token : Tag → Token) (cs : List Char) : Lexed :=
  match tag? cs with
  | some (t, rest) => ⟨[token t], .markup, rest⟩
  | none => ⟨[], .markup, []⟩

/-- What follows an opening angle bracket in markup. -/
def lexBracket (foreign : Bool) (cs : List Char) : Lexed :=
  match cs with
  | '!' :: r => lexDeclaration foreign r
  | '?' :: r => ⟨[.comment], .markup, afterBracket r⟩
  | ['/'] => ⟨[.text '<', .text '/'], .markup, []⟩
  | '/' :: '>' :: r => ⟨[.fault], .markup, r⟩
  | '/' :: c :: r =>
    if c.isAlpha then lexTag (fun t ↦ .endTag t.name) (c :: r)
    else ⟨[.comment], .markup, afterBracket (c :: r)⟩
  | c :: _ => if c.isAlpha then lexTag .startTag cs else ⟨[.text '<'], .markup, cs⟩
  | [] => ⟨[.text '<'], .markup, cs⟩

/-- Whether the text after an opening angle bracket goes on with the named element's end tag. -/
def closes (name : String) : List Char → Bool
  | '/' :: cs => beginsWith name cs && (cs.drop name.length).head?.any endsName
  | _ => false

/-- One character of an element in which only its own end tag is markup. -/
def lexRaw (content : Content) (name : String) (c : Char) (cs : List Char) : Lexed :=
  if c == '<' && closes name cs then lexTag (fun t ↦ .endTag t.name) (cs.drop 1)
  else ⟨[.text (plainChar c)], content, cs⟩

namespace ScriptPlace

/-- Whether the text goes on with the word `script` as a whole. -/
def meetsScript (cs : List Char) : Bool :=
  beginsWith "script" cs && (cs.drop 6).head?.any endsName

/-- The place after a character, given the text after it. -/
def step (p : ScriptPlace) (c : Char) (cs : List Char) : ScriptPlace :=
  match p with
  | .outside => if c == '<' && "!--".toList.isPrefixOf cs then .hidden 0 else .outside
  | .hidden dashes =>
    if c == '-' then .hidden (min 2 (dashes + 1))
    else if c == '>' && dashes == 2 then .outside
    else if c == '<' && meetsScript cs then .nested 0
    else .hidden 0
  | .nested dashes =>
    if c == '-' then .nested (min 2 (dashes + 1))
    else if c == '>' && dashes == 2 then .outside
    else if c == '<' && cs.head? == some '/' && meetsScript (cs.drop 1) then .hidden 0
    else .nested 0

/-- Whether an end tag ends the script here. -/
def mayEnd : ScriptPlace → Bool
  | .outside | .hidden _ => true
  | .nested _ => false

end ScriptPlace

/-- One character of a script. -/
def lexScript (p : ScriptPlace) (c : Char) (cs : List Char) : Lexed :=
  if p.mayEnd && c == '<' && closes "script" cs then
    lexTag (fun t ↦ .endTag t.name) (cs.drop 1)
  else ⟨[.text (plainChar c)], .script (p.step c cs), cs⟩

/-- The tokens that begin the text `c :: cs`. -/
def lex (content : Content) (foreign : Bool) (c : Char) (cs : List Char) : Lexed :=
  match content with
  | .markup =>
    if c == '<' then lexBracket foreign cs
    else if c == '&' then lexReference .markup cs
    else ⟨[characterToken c], .markup, cs⟩
  | .escapable name => if c == '&' then lexReference content cs else lexRaw content name c cs
  | .raw name => lexRaw content name c cs
  | .script p => lexScript p c cs
  | .plain => ⟨[.text (plainChar c)], .plain, cs⟩

end FeedHarvest.Html
