import FeedHarvest.Text.Digits
import FeedHarvest.Text.Utf8

/-!
# Tokens of YAML text

A YAML text is first cut into tokens. Indentation becomes tokens of its own: a token for the start
of a block collection when the column grows, and one for each end when it shrinks. A colon can turn
what came before it into a key, so the scanner remembers where a *simple key* may have begun, one
place for each level of brackets, and puts the key token there afterwards. A simple key is at most
1024 characters long and stays on one line.
-/

namespace FeedHarvest.Yaml

inductive Token where
  /-- The end of the text. -/
  | streamEnd
  | versionDirective (major minor : Nat)
  /-- A shorthand for tags: what is written and what it stands for. -/
  | tagDirective (handle expansion : String)
  /-- The marker `---`. -/
  | documentStart
  /-- The marker `...`. -/
  | documentEnd
  | blockSequenceStart
  | blockMappingStart
  | blockEnd
  | flowSequenceStart
  | flowSequenceEnd
  | flowMappingStart
  | flowMappingEnd
  /-- The dash of a sequence entry. -/
  | blockEntry
  /-- A comma. -/
  | flowEntry
  | key
  | value
  | alias (name : String)
  | anchor (name : String)
  /-- A tag: the shorthand it uses, empty for none, and what follows it. -/
  | tag (handle suffix : String)
  /-- A scalar and whether it stands without quotes and block marks. -/
  | scalar (text : String) (plain : Bool)
deriving DecidableEq, Repr, Inhabited

/-! ## Characters -/

/-- The characters that YAML text may hold. -/
def isPrintable (c : Char) : Bool :=
  let n := c.toNat
  n == 9 || n == 10 || n == 13 || (0x20 ≤ n && n ≤ 0x7E) || n == 0x85 || (0xA0 ≤ n && n ≤ 0xD7FF) ||
    (0xE000 ≤ n && n ≤ 0xFFFD) || 0x10000 ≤ n

/-- The characters that end a line. -/
def isBreak (c : Char) : Bool :=
  c == '\r' || c == '\n' || c == '\u0085' || c == '\u2028' || c == '\u2029'

/-- Space and tab. -/
def isGap (c : Char) : Bool := c == ' ' || c == '\t'

/-- Whether the text ends, or goes on with a gap or a line end. -/
def atGap : List Char → Bool
  | [] => true
  | c :: _ => isGap c || isBreak c

/-- Whether the text ends, or goes on with a line end. -/
def atBreak : List Char → Bool
  | [] => true
  | c :: _ => isBreak c

def isWord (c : Char) : Bool :=
  ('0' ≤ c && c ≤ '9') || ('A' ≤ c && c ≤ 'Z') || ('a' ≤ c && c ≤ 'z') || c == '_' || c == '-'

/-- A line end as it counts in a scalar: one line feed, except for the two Unicode separators. -/
def foldedBreak (c : Char) : Char := if c == '\u2028' || c == '\u2029' then c else '\n'

/-- Whether a document marker stands here. -/
def atDocumentMarker : List Char → Bool
  | '-' :: '-' :: '-' :: rest => atGap rest
  | '.' :: '.' :: '.' :: rest => atGap rest
  | _ => false

/-! ## Places -/

/-- A place in the text. -/
structure Mark where
  /-- Characters before it. -/
  index : Nat
  /-- Lines before it. -/
  line : Nat
  /-- Characters before it on its line. -/
  column : Nat
deriving DecidableEq, Repr, Inhabited

/-- The place after `n` characters of the same line. -/
def Mark.right (m : Mark) (n : Nat) : Mark := ⟨m.index + n, m.line, m.column + n⟩

/-- The place after a line end of `n` characters. -/
def Mark.down (m : Mark) (n : Nat) : Mark := ⟨m.index + n, m.line + 1, 0⟩

/-- The text from a place on. -/
structure Cursor where
  rest : List Char
  mark : Mark
deriving Repr, Inhabited

/-- The cursor after `n` characters of the same line. -/
def Cursor.skip (c : Cursor) (n : Nat) : Cursor := ⟨c.rest.drop n, c.mark.right n⟩

/-- The cursor after the line end that stands here, if one does. -/
def Cursor.skipBreak (c : Cursor) : Cursor :=
  match c.rest with
  | '\r' :: '\n' :: rest => ⟨rest, c.mark.down 2⟩
  | b :: rest => if isBreak b then ⟨rest, c.mark.down 1⟩ else c
  | [] => c

/-- The longest run of characters of a class, and the cursor after it. -/
def Cursor.span (p : Char → Bool) (c : Cursor) : List Char × Cursor :=
  let run := c.rest.takeWhile p
  (run, c.skip run.length)

def Cursor.skipGaps (c : Cursor) : Cursor := (c.span isGap).2

def Cursor.skipLine (c : Cursor) : Cursor := (c.span (!isBreak ·)).2

/-! ## Scalars in block style -/

/-- What becomes of the line ends after a block scalar. -/
inductive Chomping where
  /-- All are dropped. -/
  | strip
  /-- The first is kept. -/
  | clip
  /-- All are kept. -/
  | keep
deriving DecidableEq, Repr

/-- The indentation spaces and empty lines before a line of a block scalar whose indentation is
`indent`, zero when it is not known yet. Gives the line ends, the widest indentation seen, and the
cursor at the next line's text. A tab among the spaces is refused. -/
def blockBreaks (indent : Nat) (breaks : List Char) (widest : Nat) :
    List Char → Mark → Option (List Char × Nat × Cursor)
  | [], m => some (breaks, max widest m.column, ⟨[], m⟩)
  | '\r' :: '\n' :: r, m => blockBreaks indent (breaks ++ ['\n']) (max widest m.column) r (m.down 2)
  | c :: r, m =>
    let inside := indent == 0 || m.column < indent
    if c == ' ' && inside then blockBreaks indent breaks widest r (m.right 1)
    else if c == '\t' && inside then none
    else if isBreak c then
      blockBreaks indent (breaks ++ [foldedBreak c]) (max widest m.column) r (m.down 1)
    else some (breaks, max widest m.column, ⟨c :: r, m⟩)

/-- The lines of a block scalar. `text` is what is read so far, `lead` the end of the last line,
`breaks` the empty lines after it, and `led` says whether the last line began with a gap. -/
def blockLines (literal : Bool) (indent : Nat) (fuel : Nat) (text lead breaks : List Char)
    (led : Bool) (c : Cursor) : Option (List Char × List Char × List Char × Cursor) :=
  match fuel with
  | 0 => some (text, lead, breaks, c)
  | fuel + 1 =>
    if c.mark.column != indent || c.rest.isEmpty then some (text, lead, breaks, c)
    else do
      let gap := c.rest.head?.any isGap
      let folds := !literal && lead == ['\n'] && !led && !gap
      let joint := if folds then (if breaks.isEmpty then [' '] else []) else lead
      let (line, c) := c.span (!isBreak ·)
      let lead := c.rest.head?.toList.map foldedBreak
      let (breaks', _, c) ← blockBreaks indent [] 0 c.skipBreak.rest c.skipBreak.mark
      blockLines literal indent fuel (text ++ joint ++ breaks ++ line) lead breaks' gap c

/-- The marks after the sign of a block scalar: chomping and indentation, in either order. -/
def blockHeader (c : Cursor) : Option (Chomping × Nat × Cursor) :=
  let chomp (c : Cursor) : Option (Chomping × Cursor) :=
    match c.rest with
    | '+' :: _ => some (.keep, c.skip 1)
    | '-' :: _ => some (.strip, c.skip 1)
    | _ => none
  let width (c : Cursor) : Option (Option (Nat × Cursor)) :=
    match c.rest with
    | d :: _ =>
      if d == '0' then none
      else if Text.isDigit d then some (some (d.toNat - '0'.toNat, c.skip 1))
      else some none
    | [] => some none
  match chomp c with
  | some (chomping, c) =>
    match width c with
    | none => none
    | some none => some (chomping, 0, c)
    | some (some (n, c)) => some (chomping, n, c)
  | none =>
    match width c with
    | none => none
    | some none => some (.clip, 0, c)
    | some (some (n, c)) =>
      match chomp c with
      | some (chomping, c) => some (chomping, n, c)
      | none => some (.clip, n, c)

/-- A block scalar inside a collection at column `parent`, from its sign on. -/
def scanBlockScalar (literal : Bool) (parent : Int) (c : Cursor) : Option (String × Cursor) := do
  let (chomping, increment, c) ← blockHeader (c.skip 1)
  let c := c.skipGaps
  let c := if c.rest.head? == some '#' then c.skipLine else c
  if !atBreak c.rest then none
  let c := c.skipBreak
  let fixed : Nat := if increment = 0 then 0 else (max parent 0).toNat + increment
  let (breaks, widest, c) ← blockBreaks fixed [] 0 c.rest c.mark
  let indent := if fixed = 0 then max (max widest (parent + 1).toNat) 1 else fixed
  let (text, lead, breaks, c) ←
    blockLines literal indent (c.rest.length + 1) [] [] breaks false c
  let tail := match chomping with
    | .strip => []
    | .clip => lead
    | .keep => lead ++ breaks
  return (String.ofList (text ++ tail), c)

/-! ## Scalars in flow style -/

/-- Blanks inside a flow scalar that are not yet part of its text. -/
structure Pending where
  /-- Gaps on the line of the last character. -/
  gaps : List Char := []
  /-- The first line end. -/
  lead : List Char := []
  /-- The line ends after the first. -/
  breaks : List Char := []
  /-- Whether a line end came. -/
  broken : Bool := false

/-- What the blanks become between two parts of the text: one line end becomes a space, several lose
the first. -/
def Pending.joint (p : Pending) : List Char :=
  if p.broken then
    if p.lead == ['\n'] then (if p.breaks.isEmpty then [' '] else p.breaks) else p.lead ++ p.breaks
  else p.gaps

def Pending.addGap (p : Pending) (c : Char) : Pending :=
  if p.broken then p else { p with gaps := p.gaps ++ [c] }

def Pending.addBreak (p : Pending) (c : Char) : Pending :=
  if p.broken then { p with breaks := p.breaks ++ [foldedBreak c] }
  else { p with gaps := [], lead := [foldedBreak c], broken := true }

/-- A scalar without quotes. `acc` holds its text so far, last character first; `fresh` says that
blanks have just been passed. -/
def scanPlain (inFlow : Bool) (indent : Int) (acc : List Char) (p : Pending) (fresh : Bool) :
    List Char → Mark → Option (List Char × Bool × Cursor)
  | [], m => some (acc, p.broken, ⟨[], m⟩)
  | '\r' :: '\n' :: r, m => scanPlain inFlow indent acc (p.addBreak '\n') true r (m.down 2)
  | c :: r, m =>
    if isBreak c then scanPlain inFlow indent acc (p.addBreak c) true r (m.down 1)
    else if isGap c then
      if p.broken && m.column < indent && c == '\t' then none
      else scanPlain inFlow indent acc (p.addGap c) true r (m.right 1)
    else if fresh && ((!inFlow && p.broken && m.column < indent) || c == '#' ||
        (m.column == 0 && atDocumentMarker (c :: r))) then
      some (acc, p.broken, ⟨c :: r, m⟩)
    else if inFlow && c == ':' && r.head?.any (fun d ↦ ",?[]\x7b\x7d".toList.contains d) then none
    else if (c == ':' && atGap r) || (inFlow && ",[]\x7b\x7d".toList.contains c) then
      some (acc, p.broken, ⟨c :: r, m⟩)
    else scanPlain inFlow indent (c :: (p.joint.reverse ++ acc)) {} false r (m.right 1)

/-- The character that an escape of one character stands for. -/
def escaped? : Char → Option Char
  | '0' => some '\x00'
  | 'a' => some '\x07'
  | 'b' => some '\x08'
  | 't' => some '\t'
  | '\t' => some '\t'
  | 'n' => some '\n'
  | 'v' => some '\x0b'
  | 'f' => some '\x0c'
  | 'r' => some '\r'
  | 'e' => some '\x1b'
  | ' ' => some ' '
  | '"' => some '"'
  | '/' => some '/'
  | '\\' => some '\\'
  | 'N' => some '\u0085'
  | '_' => some '\u00a0'
  | 'L' => some '\u2028'
  | 'P' => some '\u2029'
  | _ => none

/-- How many hexadecimal digits follow the letter of an escape. -/
def escapeWidth? : Char → Option Nat
  | 'x' => some 2
  | 'u' => some 4
  | 'U' => some 8
  | _ => none

/-- A character by its number in hexadecimal. -/
def charOfHex? (digits : List Char) : Option Char := do
  let n ← Text.natOfHex? digits
  if (0xD800 ≤ n ∧ n ≤ 0xDFFF) ∨ 0x10FFFF < n then none else some (Char.ofNat n)

/-- A scalar in quotes after the opening one. `held` counts characters of an escape that is already
part of the text. -/
def scanQuoted (single : Bool) (acc : List Char) (p : Pending) (fresh : Bool) (held : Nat) :
    List Char → Mark → Option (List Char × Cursor)
  | [], _ => none
  | '\r' :: '\n' :: r, m => scanQuoted single acc (p.addBreak '\n') true 0 r (m.down 2)
  | c :: r, m =>
    if 0 < held then scanQuoted single acc p false (held - 1) r (m.right 1)
    else if isBreak c then scanQuoted single acc (p.addBreak c) true 0 r (m.down 1)
    else if isGap c then scanQuoted single acc (p.addGap c) true 0 r (m.right 1)
    else
      let acc := p.joint.reverse ++ acc
      if fresh && m.column == 0 && atDocumentMarker (c :: r) then none
      else if single then
        if c != '\'' then scanQuoted single (c :: acc) {} false 0 r (m.right 1)
        else if r.head? == some '\'' then scanQuoted single ('\'' :: acc) {} false 1 r (m.right 1)
        else some (acc, ⟨r, m.right 1⟩)
      else if c == '"' then some (acc, ⟨r, m.right 1⟩)
      else if c != '\\' then scanQuoted single (c :: acc) {} false 0 r (m.right 1)
      else
        match r with
        | [] => none
        | e :: _ =>
          if isBreak e then scanQuotedJoin acc r (m.right 1)
          else
            match escaped? e with
            | some x => scanQuoted single (x :: acc) {} false 1 r (m.right 1)
            | none =>
              match escapeWidth? e with
              | none => none
              | some w =>
                match charOfHex? ((r.drop 1).take w) with
                | some x =>
                  if (r.drop 1).length < w then none
                  else scanQuoted single (x :: acc) {} false (w + 1) r (m.right 1)
                | none => none
where
  /-- A line end after a backslash joins two lines without a space. -/
  scanQuotedJoin (acc : List Char) : List Char → Mark → Option (List Char × Cursor)
    | '\r' :: '\n' :: r, m => scanQuoted false acc { broken := true } true 0 r (m.down 2)
    | _ :: r, m => scanQuoted false acc { broken := true } true 0 r (m.down 1)
    | [], _ => none

/-! ## Tags and directives -/

def isTagChar (verbatim : Bool) (c : Char) : Bool :=
  isWord c || ";/?:@&=+$.%!~*\x27()".toList.contains c || (verbatim && ",[]".toList.contains c)

/-- The bytes of tag text: a percent sign and two digits are one byte. -/
def tagBytes? : List Char → Option (List UInt8)
  | [] => some []
  | '%' :: a :: b :: rest => do
    let n ← Text.natOfHex? [a, b]
    return n.toUInt8 :: (← tagBytes? rest)
  | '%' :: _ => none
  | c :: rest => do return Text.Utf8.encode (String.ofList [c]) ++ (← tagBytes? rest)

def scanTagText (verbatim : Bool) (c : Cursor) : Option (String × Cursor) :=
  let (run, c) := c.span (isTagChar verbatim)
  if run.isEmpty then none
  else do return (← Text.Utf8.decode? (← tagBytes? run), c)

/-- A tag's shorthand: a mark, a word and, unless the mark stands alone, another mark. -/
def scanTagHandle (c : Cursor) : Option (String × Cursor) :=
  match c.rest with
  | '!' :: _ =>
    let (word, c) := (c.skip 1).span isWord
    match c.rest with
    | '!' :: _ => some (String.ofList ('!' :: word ++ ['!']), c.skip 1)
    | _ => some (String.ofList ('!' :: word), c)
  | _ => none

def scanTag (inFlow : Bool) (c : Cursor) : Option (Token × Cursor) := do
  let (token, c) ←
    match c.rest with
    | '!' :: '<' :: _ => do
      let (suffix, c) ← scanTagText true (c.skip 2)
      if c.rest.head? == some '>' then some (Token.tag "" suffix, c.skip 1) else none
    | _ => do
      let (handle, next) ← scanTagHandle c
      if 2 ≤ handle.length && handle.endsWith "!" then
        let (suffix, c) ← scanTagText false next
        some (Token.tag handle suffix, c)
      else
        let (more, c) ← (scanTagText false next).or
          (if next.rest.head?.any (isTagChar false) then none else some ("", next))
        let suffix := String.ofList (handle.toList.drop 1) ++ more
        some (if suffix.isEmpty then Token.tag "" "!" else Token.tag "!" suffix, c)
  if (!inFlow || c.rest.head? != some ',') && !atGap c.rest then none else some (token, c)

/-- The name after the sign of an anchor or alias. -/
def scanName (c : Cursor) : Option (String × Cursor) :=
  let (name, c) := (c.skip 1).span isWord
  if name.isEmpty then none
  else if atGap c.rest || c.rest.head?.any (fun d ↦ "?:,]\x7d%@\x60".toList.contains d) then
    some (String.ofList name, c)
  else none

/-- A number of at most nine digits. -/
def scanVersionNumber (c : Cursor) : Option (Nat × Cursor) := do
  let (ds, c) := c.span Text.isDigit
  if 9 < ds.length then none else return (← Text.natOfDecimal? ds, c)

def scanDirective (c : Cursor) : Option (Token × Cursor) := do
  let (name, c) := (c.skip 1).span isWord
  if name.isEmpty || !atGap c.rest then none
  let (token, c) ←
    if name == "YAML".toList then do
      let (major, c) ← scanVersionNumber c.skipGaps
      if c.rest.head? != some '.' then none
      let (minor, c) ← scanVersionNumber (c.skip 1)
      some (Token.versionDirective major minor, c)
    else if name == "TAG".toList then do
      let (handle, c) ← scanTagHandle c.skipGaps
      if handle != "!" && !(2 ≤ handle.length && handle.endsWith "!") then none
      if !c.rest.head?.any isGap then none
      let (expansion, c) ← scanTagText true c.skipGaps
      if !atGap c.rest then none
      some (Token.tagDirective handle expansion, c)
    else none
  let c := c.skipGaps
  let c := if c.rest.head? == some '#' then c.skipLine else c
  if atBreak c.rest then some (token, c.skipBreak) else none

/-! ## The scanner -/

/-- A place where a key may have begun. -/
structure SimpleKey where
  /-- Whether a key must have begun there. -/
  required : Bool
  /-- The number of tokens before it. -/
  position : Nat
  mark : Mark
deriving Repr, Inhabited

/-- The scanner between two tokens. -/
structure Scanner where
  cursor : Cursor
  /-- The tokens so far, the last first. -/
  tokens : List Token := []
  /-- The column of the innermost block collection, `-1` outside of all. -/
  indent : Int := -1
  /-- The columns of the collections around it. -/
  indents : List Int := []
  /-- Whether a key may begin here. -/
  keyAllowed : Bool := true
  /-- Where a key may have begun, for this level of brackets and those around it. -/
  keys : List (Option SimpleKey) := [none]
deriving Inhabited

namespace Scanner

/-- Whether the scanner is inside brackets. -/
def inFlow (s : Scanner) : Bool := 1 < s.keys.length

def push (s : Scanner) (t : Token) : Scanner := { s with tokens := t :: s.tokens }

/-- Puts a token before the one at a position. -/
def insertAt (s : Scanner) (position : Nat) (t : Token) : Scanner :=
  let after := s.tokens.length - position
  { s with tokens := s.tokens.take after ++ t :: s.tokens.drop after }

def skip (s : Scanner) (n : Nat) : Scanner := { s with cursor := s.cursor.skip n }

/-- Passes over blanks, comments and line ends. A line end outside brackets allows a key. -/
def toToken (inFlow keyAllowed comment : Bool) : List Char → Mark → Bool × Cursor
  | [], m => (keyAllowed, ⟨[], m⟩)
  | '\r' :: '\n' :: r, m => toToken inFlow (keyAllowed || !inFlow) false r (m.down 2)
  | c :: r, m =>
    if isBreak c then toToken inFlow (keyAllowed || !inFlow) false r (m.down 1)
    else if comment then toToken inFlow keyAllowed true r (m.right 1)
    else if c == ' ' || ((inFlow || !keyAllowed) && c == '\t') then
      toToken inFlow keyAllowed false r (m.right 1)
    else if c == '#' then toToken inFlow keyAllowed true r (m.right 1)
    else (keyAllowed, ⟨c :: r, m⟩)

/-- Drops the places that are too far back for a key, which fails if one of them needs a key. -/
def dropStale (s : Scanner) : Option Scanner := do
  let m := s.cursor.mark
  let check (k : Option SimpleKey) : Option (Option SimpleKey) :=
    match k with
    | none => some none
    | some k =>
      if k.mark.line < m.line || k.mark.index + 1024 < m.index then
        if k.required then none else some none
      else some (some k)
  return { s with keys := ← s.keys.mapM check }

/-- Closes the block collections that are indented deeper than `column`. -/
def unroll (s : Scanner) (column : Int) : Scanner :=
  if s.inFlow then s
  else
    let rec go (tokens : List Token) (indent : Int) : List Int → Scanner
      | [] => { s with tokens, indent, indents := [] }
      | i :: is =>
        if column < indent then go (.blockEnd :: tokens) i is
        else { s with tokens, indent, indents := i :: is }
    go s.tokens s.indent s.indents

/-- Opens a block collection at a column deeper than the present one, at a token position. -/
def roll (s : Scanner) (column : Int) (position : Nat) (t : Token) : Scanner :=
  if s.inFlow || column ≤ s.indent then s
  else { s.insertAt position t with indent := column, indents := s.indent :: s.indents }

/-- Forgets the place where a key may have begun, which fails if one must have. -/
def removeKey (s : Scanner) : Option Scanner :=
  match s.keys with
  | some k :: ks => if k.required then none else some { s with keys := none :: ks }
  | _ => some s

/-- Remembers this place as one where a key may begin. -/
def saveKey (s : Scanner) : Option Scanner :=
  if s.keyAllowed then do
    let required := !s.inFlow && s.indent == s.cursor.mark.column
    let s ← s.removeKey
    return { s with keys := some ⟨required, s.tokens.length, s.cursor.mark⟩ :: s.keys.drop 1 }
  else some s

def fetchEnd (s : Scanner) : Option Scanner := do
  let s ← (s.unroll (-1)).removeKey
  return { s.push .streamEnd with keyAllowed := false }

def fetchDirective (s : Scanner) : Option Scanner := do
  let s ← (s.unroll (-1)).removeKey
  let (t, c) ← scanDirective s.cursor
  return { s.push t with cursor := c, keyAllowed := false }

def fetchMarker (s : Scanner) (t : Token) : Option Scanner := do
  let s ← (s.unroll (-1)).removeKey
  return { (s.push t).skip 3 with keyAllowed := false }

def fetchOpen (s : Scanner) (t : Token) : Option Scanner := do
  let s ← s.saveKey
  return { (s.push t).skip 1 with keys := none :: s.keys, keyAllowed := true }

def fetchClose (s : Scanner) (t : Token) : Option Scanner := do
  let s ← s.removeKey
  let keys := if s.inFlow then s.keys.drop 1 else s.keys
  return { (s.push t).skip 1 with keys, keyAllowed := false }

def fetchComma (s : Scanner) : Option Scanner := do
  let s ← s.removeKey
  return { (s.push .flowEntry).skip 1 with keyAllowed := true }

/-- The dash of a sequence entry. -/
def fetchEntry (s : Scanner) : Option Scanner := do
  if !s.inFlow && !s.keyAllowed then none
  let s ← (s.roll s.cursor.mark.column s.tokens.length .blockSequenceStart).removeKey
  return { (s.push .blockEntry).skip 1 with keyAllowed := true }

/-- The mark of an explicit key. -/
def fetchKey (s : Scanner) : Option Scanner := do
  if !s.inFlow && !s.keyAllowed then none
  let s ← (s.roll s.cursor.mark.column s.tokens.length .blockMappingStart).removeKey
  return { (s.push .key).skip 1 with keyAllowed := !s.inFlow }

/-- A colon: it makes a key of what began at the remembered place, or gives a value without one. -/
def fetchValue (s : Scanner) : Option Scanner :=
  match s.keys with
  | some k :: ks =>
    let s := s.insertAt k.position .key
    let s := s.roll k.mark.column k.position .blockMappingStart
    some { (s.push .value).skip 1 with keys := none :: ks, keyAllowed := false }
  | _ => do
    if !s.inFlow && !s.keyAllowed then none
    let s := s.roll s.cursor.mark.column s.tokens.length .blockMappingStart
    return { (s.push .value).skip 1 with keyAllowed := !s.inFlow }

def fetchName (s : Scanner) (t : String → Token) : Option Scanner := do
  let s ← s.saveKey
  let (name, c) ← scanName s.cursor
  return { s.push (t name) with cursor := c, keyAllowed := false }

def fetchTag (s : Scanner) : Option Scanner := do
  let s ← s.saveKey
  let (t, c) ← scanTag s.inFlow s.cursor
  return { s.push t with cursor := c, keyAllowed := false }

def fetchBlockScalar (s : Scanner) (literal : Bool) : Option Scanner := do
  let s ← s.removeKey
  let (text, c) ← scanBlockScalar literal s.indent s.cursor
  return { s.push (.scalar text false) with cursor := c, keyAllowed := true }

def fetchQuoted (s : Scanner) (single : Bool) : Option Scanner := do
  let s ← s.saveKey
  let c := s.cursor.skip 1
  let (text, c) ← scanQuoted single [] {} false 0 c.rest c.mark
  let scanned := s.push (.scalar (String.ofList text.reverse) false)
  return { scanned with cursor := c, keyAllowed := false }

/-- A scalar without quotes. A key may follow if it ran over a line end. -/
def fetchPlain (s : Scanner) : Option Scanner := do
  let s ← s.saveKey
  let (text, broken, c) ←
    scanPlain s.inFlow (s.indent + 1) [] {} false s.cursor.rest s.cursor.mark
  let scanned := s.push (.scalar (String.ofList text.reverse) true)
  return { scanned with cursor := c, keyAllowed := broken }

/-- The characters that no scalar without quotes begins with. -/
def isIndicator (c : Char) : Bool := "-?:,[]\x7b\x7d#&*!|>\x27\x22%@\x60".toList.contains c

/-- One token, with those that indentation or a colon puts before it. -/
def fetch (s : Scanner) : Option Scanner := do
  let (keyAllowed, cursor) :=
    toToken s.inFlow s.keyAllowed false s.cursor.rest s.cursor.mark
  let s ← { s with cursor, keyAllowed }.dropStale
  let s := s.unroll cursor.mark.column
  match cursor.rest with
  | [] => s.fetchEnd
  | c :: r =>
    if cursor.mark.column == 0 && c == '%' then s.fetchDirective
    else if cursor.mark.column == 0 && atDocumentMarker (c :: r) then
      s.fetchMarker (if c == '-' then .documentStart else .documentEnd)
    else if c == '[' then s.fetchOpen .flowSequenceStart
    else if c == '{' then s.fetchOpen .flowMappingStart
    else if c == ']' then s.fetchClose .flowSequenceEnd
    else if c == '}' then s.fetchClose .flowMappingEnd
    else if c == ',' then s.fetchComma
    else if c == '-' && atGap r then s.fetchEntry
    else if c == '?' && (s.inFlow || atGap r) then s.fetchKey
    else if c == ':' && (s.inFlow || atGap r) then s.fetchValue
    else if c == '*' then s.fetchName .alias
    else if c == '&' then s.fetchName .anchor
    else if c == '!' then s.fetchTag
    else if c == '|' && !s.inFlow then s.fetchBlockScalar true
    else if c == '>' && !s.inFlow then s.fetchBlockScalar false
    else if c == '\'' then s.fetchQuoted true
    else if c == '"' then s.fetchQuoted false
    else if !(isGap c || isIndicator c) || (c == '-' && !r.head?.any isGap) ||
        (!s.inFlow && (c == '?' || c == ':') && !atGap r) then s.fetchPlain
    else none

/-- All tokens; every token but the last takes at least one character, so `fuel` is one more than
their number. -/
def run (s : Scanner) : Nat → Option (List Token)
  | 0 => none
  | fuel + 1 => do
    let s ← s.fetch
    match s.tokens with
    | .streamEnd :: _ => return s.tokens.reverse
    | _ => run s fuel

end Scanner

/-- The tokens of a text, without the byte-order mark that may stand in front of it. -/
def tokens? (text : List Char) : Option (List Token) :=
  if !text.all isPrintable then none
  else
    let body := match text with
      | '\uFEFF' :: '\uFEFF' :: rest => rest
      | '\uFEFF' :: rest => rest
      | _ => text
    Scanner.run { cursor := ⟨body, ⟨0, 0, 0⟩⟩ } (body.length + 2)

end FeedHarvest.Yaml
