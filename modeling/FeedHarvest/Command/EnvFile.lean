import FeedHarvest.Command.Settings
import FeedHarvest.Files

/-!
# Environment files

A file may hold settings for where the environment has none: a name and a value on a line, with an
equals sign between them. Values may be quoted in two ways, of which one lets other values be put in
by their names. Reading ends at the first line that is malformed; what stands before it counts.
-/

namespace FeedHarvest.EnvFile

/-- The names and values read so far, in order. -/
abbrev Entries := List (String × String)

/-- Where in a value the next character stands. -/
inductive Place where
  | plain
  /-- Inside quotes that keep everything as it is. -/
  | strong
  /-- Inside quotes in which names and escapes count. -/
  | weak
  /-- Behind a value, where only a comment may follow. -/
  | behind
  deriving DecidableEq

/-- A name inside a value: not begun, begun with a dollar sign, or in braces. -/
inductive Naming where
  | none
  | bare
  | braced
  deriving DecidableEq

/-- What has been read of a value. The texts have their last character first. -/
structure ValueScan where
  place : Place := .plain
  escaped : Bool := false
  naming : Naming := .none
  name : List Char := []
  output : List Char := []

namespace ValueScan

def add (s : ValueScan) (c : Char) : ValueScan := { s with output := c :: s.output }

/-- Puts in the value of the name that has been read. -/
def putName (lookup : String → String) (s : ValueScan) : ValueScan :=
  { s with
    output := (lookup (String.ofList s.name.reverse)).toList.reverse ++ s.output
    name := [], naming := .none }

/-- Reads a character that is no part of a name. -/
def stepText (s : ValueScan) (c : Char) : Option ValueScan :=
  if s.escaped then
    if "\\\x27\"$ ".toList.contains c then some { s.add c with escaped := false }
    else if c == 'n' then some { s.add '\n' with escaped := false }
    else none
  else
    match s.place with
    | .behind => if c == ' ' || c == '\t' then some s else none
    | .strong => some (if c == '\x27' then { s with place := .plain } else s.add c)
    | .weak =>
      if c == '$' then some { s with naming := .bare }
      else if c == '"' then some { s with place := .plain }
      else if c == '\\' then some { s with escaped := true }
      else some (s.add c)
    | .plain =>
      if c == '$' then some { s with naming := .bare }
      else if c == '\x27' then some { s with place := .strong }
      else if c == '"' then some { s with place := .weak }
      else if c == '\\' then some { s with escaped := true }
      else if c == ' ' || c == '\t' then some { s with place := .behind }
      else some (s.add c)

def step (lookup : String → String) (s : ValueScan) (c : Char) : Option ValueScan :=
  match s.naming with
  | .none => s.stepText c
  | .bare =>
    if c.isAlphanum then some { s with name := c :: s.name }
    else if c == '\x7b' && s.name.isEmpty then some { s with naming := .braced }
    else
      let s := s.putName lookup
      some (if c == '$' then { s with naming := .bare } else s.add c)
  | .braced =>
    if c == '\x7d' then some (s.putName lookup) else some { s with name := c :: s.name }

/-- Reads a value to its end, which a comment behind it may bring. -/
def run (lookup : String → String) (s : ValueScan) : List Char → Option String
  | [] =>
    if s.naming == .braced || s.place == .strong || s.place == .weak then Option.none
    else some (String.ofList (s.putName lookup).output.reverse)
  | c :: cs =>
    if s.place == .behind && c == '#' then run lookup s []
    else do (← s.step lookup c).run lookup cs

end ValueScan

/-- The name at the beginning of a text, and the text after it. -/
def name? (cs : List Char) : Option (String × List Char) :=
  let isPart (c : Char) : Bool := c.isAlphanum || c == '_' || c == '.'
  if cs.head?.any fun c ↦ c.isAlpha || c == '_' then
    some (String.ofList (cs.takeWhile isPart), Text.trimStart (cs.dropWhile isPart))
  else none

/-- A line: a name and its value, nothing, or a fault. -/
def line? (lookup : String → String) (line : List Char) : Option (Option (String × String)) :=
  let value (name : String) (cs : List Char) : Option (Option (String × String)) :=
    match Text.trimStart cs with
    | [] => some (some (name, ""))
    | '#' :: _ => some (some (name, ""))
    | cs => (ValueScan.run lookup {} cs).map fun v ↦ some (name, v)
  match Text.trim line with
  | [] => some none
  | '#' :: _ => some none
  | cs => do
    match ← name? cs with
    | (name, '=' :: rest) => value name rest
    | ("export", rest) =>
      match ← name? rest with
      | (name, '=' :: rest) => value name rest
      | _ => none
    | _ => none

/-- Reads lines until one is malformed. -/
def readLines (lookup : Settings.Lookup) : Entries → List (List Char) → Entries
  | es, [] => es
  | es, line :: lines =>
    let known (name : String) : String := ((lookup name).or (es.reverse.lookup name)).getD ""
    match line? known line with
    | none => es
    | some none => readLines lookup es lines
    | some (some e) => readLines lookup (es ++ [e]) lines

def entries (lookup : Settings.Lookup) (text : String) : Entries :=
  readLines lookup [] (text.toList.splitOn '\n')

/-- The environment with a file's settings for what it does not set. -/
def extend (lookup : Settings.Lookup) (text : String) : Settings.Lookup := fun name ↦
  (lookup name).or ((entries lookup text).lookup name)

def fileName : String := ".env"

/-- Where the file is looked for: in a folder, and then in those around it. -/
def paths (folder : List String) : List String :=
  (List.range (folder.length + 1)).map fun n ↦
    "/" ++ "/".intercalate (folder.take (folder.length - n) ++ [fileName])

/-- The text of the nearest file. -/
def text? (files : Files) : Option String := (paths files.here).findSome? files.text?

/-- The environment with the settings of the nearest file. -/
def inFolder (files : Files) (lookup : Settings.Lookup) : Settings.Lookup :=
  match text? files with
  | some text => extend lookup text
  | none => lookup

end FeedHarvest.EnvFile
