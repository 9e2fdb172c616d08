import FeedHarvest.Yaml.Token

/-!
# Nodes of YAML text

The grammar over tokens. A node is still as written: a scalar has no type yet, an alias is a name,
and anchors and tags are where they stand. A node may be missing almost anywhere, which makes it a
scalar without text. The text may hold at most one document.

The functions of the grammar call each other down the token list, and each is given fuel enough for
the longest chain of calls, which takes at most a few calls for each token.
-/

namespace FeedHarvest.Yaml

/-- What may stand in front of a node. Anchors have names of type `α`. -/
structure Properties (α : Type) where
  anchor : Option α := none
  /-- The tag with its shorthand expanded. -/
  tag : Option String := none
deriving DecidableEq, Repr, Inhabited

/-- A node as written. Anchors and aliases have names of type `α`. -/
inductive Node (α : Type) where
  | alias (name : α)
  | scalar (properties : Properties α) (text : String) (plain : Bool)
  | sequence (properties : Properties α) (items : List (Node α))
  | mapping (properties : Properties α) (entries : List (Node α × Node α))
deriving Repr

/-- A node as it is read first, with names in letters. -/
abbrev Written := Node String

namespace Node

/-- A node that is not written. -/
def missing : Written := .scalar {} "" true

/-- The shorthands of tags in force: what is written and what it stands for. -/
abbrev Handles := List (String × String)

/-- The shorthands that need no directive. -/
def defaultHandles : Handles := [("!", "!"), ("!!", "tag:yaml.org,2002:")]

def expandTag? (handles : Handles) (handle suffix : String) : Option String :=
  if handle.isEmpty then some suffix else (handles.lookup handle).map (· ++ suffix)

/-- An anchor and a tag in either order, at most one of each. -/
def readProperties (handles : Handles) : List Token → Option (Properties String × List Token)
  | .anchor a :: .tag h x :: ts => do return (⟨some a, some (← expandTag? handles h x)⟩, ts)
  | .tag h x :: .anchor a :: ts => do return (⟨some a, some (← expandTag? handles h x)⟩, ts)
  | .anchor a :: ts => some (⟨some a, none⟩, ts)
  | .tag h x :: ts => do return (⟨none, some (← expandTag? handles h x)⟩, ts)
  | ts => some ({}, ts)

/-- A scalar with its properties; the tag that is only a mark says nothing and makes the scalar one
without quotes to be typed as such. -/
def ofScalar (p : Properties String) (text : String) (plain : Bool) : Written :=
  if p.tag == some "!" then .scalar { p with tag := none } text plain else .scalar p text plain

/-- Whether a block entry is left out before this token. -/
def endsBlockEntry : List Token → Bool
  | .blockEntry :: _ | .blockEnd :: _ => true
  | _ => false

/-- Whether an entry of a sequence at its parent's column is left out before this token. -/
def endsFlatEntry : List Token → Bool
  | .blockEntry :: _ | .key :: _ | .value :: _ | .blockEnd :: _ => true
  | _ => false

/-- Whether a key or value of a block mapping is left out before this token. -/
def endsBlockPart : List Token → Bool
  | .key :: _ | .value :: _ | .blockEnd :: _ => true
  | _ => false

/-- Whether a value in brackets is left out before this token. -/
def endsFlowPart : List Token → Bool
  | .flowEntry :: _ | .flowSequenceEnd :: _ => true
  | _ => false

/-- Whether a key or value in braces is left out before this token. -/
def endsFlowMapping : List Token → Bool
  | .flowEntry :: _ | .flowMappingEnd :: _ => true
  | _ => false

mutual

/-- A node. `block` allows block collections, `flat` a sequence at its parent's column. -/
def read (handles : Handles) (fuel : Nat) (block flat : Bool) (ts : List Token) :
    Option (Written × List Token) :=
  match fuel with
  | 0 => none
  | fuel + 1 =>
    match ts with
    | .alias name :: ts => some (.alias name, ts)
    | ts => do
      let (p, ts) ← readProperties handles ts
      match ts with
      | .scalar text plain :: ts => some (ofScalar p text plain, ts)
      | .flowSequenceStart :: ts => do
        let (items, ts) ← readFlowItems handles fuel true ts
        some (.sequence p items, ts)
      | .flowMappingStart :: ts => do
        let (entries, ts) ← readFlowEntries handles fuel true ts
        some (.mapping p entries, ts)
      | ts => do
        if flat && ts.head? == some .blockEntry then
          let (items, ts) ← readFlatItems handles fuel ts
          some (.sequence p items, ts)
        else
          match block, ts with
          | true, .blockSequenceStart :: ts => do
            let (items, ts) ← readBlockItems handles fuel ts
            some (.sequence p items, ts)
          | true, .blockMappingStart :: ts => do
            let (entries, ts) ← readBlockEntries handles fuel ts
            some (.mapping p entries, ts)
          | _, ts => if p == {} then none else some (.scalar p "" true, ts)

/-- The entries of a block sequence up to its end. -/
def readBlockItems (handles : Handles) (fuel : Nat) (ts : List Token) :
    Option (List Written × List Token) :=
  match fuel with
  | 0 => none
  | fuel + 1 =>
    match ts with
    | .blockEnd :: ts => some ([], ts)
    | .blockEntry :: ts => do
      let (item, ts) ←
        if endsBlockEntry ts then some (missing, ts) else read handles fuel true false ts
      let (items, ts) ← readBlockItems handles fuel ts
      some (item :: items, ts)
    | _ => none

/-- The entries of a sequence at its parent's column. -/
def readFlatItems (handles : Handles) (fuel : Nat) (ts : List Token) :
    Option (List Written × List Token) :=
  match fuel with
  | 0 => none
  | fuel + 1 =>
    match ts with
    | .blockEntry :: ts => do
      let (item, ts) ←
        if endsFlatEntry ts then some (missing, ts) else read handles fuel true false ts
      let (items, ts) ← readFlatItems handles fuel ts
      some (item :: items, ts)
    | ts => some ([], ts)

/-- The entries of a block mapping up to its end. -/
def readBlockEntries (handles : Handles) (fuel : Nat) (ts : List Token) :
    Option (List (Written × Written) × List Token) :=
  match fuel with
  | 0 => none
  | fuel + 1 =>
    match ts with
    | .blockEnd :: ts => some ([], ts)
    | .key :: ts => do
      let (key, ts) ←
        if endsBlockPart ts then some (missing, ts) else read handles fuel true true ts
      let (value, ts) ← readBlockValue handles fuel ts
      let (entries, ts) ← readBlockEntries handles fuel ts
      some ((key, value) :: entries, ts)
    | _ => none

/-- The value of an entry of a block mapping. -/
def readBlockValue (handles : Handles) (fuel : Nat) (ts : List Token) :
    Option (Written × List Token) :=
  match fuel with
  | 0 => none
  | fuel + 1 =>
    match ts with
    | .value :: ts =>
      if endsBlockPart ts then some (missing, ts) else read handles fuel true true ts
    | ts => some (missing, ts)

/-- The items in brackets up to the closing one. -/
def readFlowItems (handles : Handles) (fuel : Nat) (first : Bool) (ts : List Token) :
    Option (List Written × List Token) :=
  match fuel with
  | 0 => none
  | fuel + 1 =>
    match ts with
    | .flowSequenceEnd :: ts => some ([], ts)
    | ts => do
      let ts ← match first, ts with
        | true, ts => some ts
        | false, .flowEntry :: ts => some ts
        | false, _ => none
      match ts with
      | .flowSequenceEnd :: ts => some ([], ts)
      | .key :: ts => do
        let (item, ts) ← readFlowPair handles fuel ts
        let (items, ts) ← readFlowItems handles fuel false ts
        some (item :: items, ts)
      | ts => do
        let (item, ts) ← read handles fuel false false ts
        let (items, ts) ← readFlowItems handles fuel false ts
        some (item :: items, ts)

/-- A key and its value as an item in brackets, after the key's mark: a mapping of one entry. A key
that is left out takes the next token with it. -/
def readFlowPair (handles : Handles) (fuel : Nat) (ts : List Token) :
    Option (Written × List Token) :=
  match fuel with
  | 0 => none
  | fuel + 1 => do
    let leftOut := endsFlowPart ts || ts.head? == some .value
    let (key, ts) ← if leftOut then some (missing, ts.drop 1) else read handles fuel false false ts
    let (value, ts) ←
      match ts with
      | .value :: ts =>
        if endsFlowPart ts then some (missing, ts) else read handles fuel false false ts
      | ts => some (missing, ts)
    some (.mapping {} [(key, value)], ts)

/-- The entries in braces up to the closing one. -/
def readFlowEntries (handles : Handles) (fuel : Nat) (first : Bool) (ts : List Token) :
    Option (List (Written × Written) × List Token) :=
  match fuel with
  | 0 => none
  | fuel + 1 =>
    match ts with
    | .flowMappingEnd :: ts => some ([], ts)
    | ts => do
      let ts ← match first, ts with
        | true, ts => some ts
        | false, .flowEntry :: ts => some ts
        | false, _ => none
      match ts with
      | .flowMappingEnd :: ts => some ([], ts)
      | .key :: ts => do
        let leftOut := endsFlowMapping ts || ts.head? == some .value
        let (key, ts) ← if leftOut then some (missing, ts) else read handles fuel false false ts
        let (value, ts) ←
          match ts with
          | .value :: ts =>
            if endsFlowMapping ts then some (missing, ts) else read handles fuel false false ts
          | ts => some (missing, ts)
        let (entries, ts) ← readFlowEntries handles fuel false ts
        some ((key, value) :: entries, ts)
      | ts => do
        let (key, ts) ← read handles fuel false false ts
        let (entries, ts) ← readFlowEntries handles fuel false ts
        some ((key, missing) :: entries, ts)

end

/-! ## Documents -/

/-- Whether a token says something about the document as a whole. -/
def isDirective : Token → Bool
  | .versionDirective .. | .tagDirective .. => true
  | _ => false

/-- The directives before a document: at most one version, which must be 1.1 or 1.2, and no
shorthand twice. Gives the shorthands in force. -/
def readDirectives (versioned : Bool) (handles : Handles) :
    List Token → Option (Handles × List Token)
  | .versionDirective major minor :: ts =>
    if versioned || major != 1 || (minor != 1 && minor != 2) then none
    else readDirectives true handles ts
  | .tagDirective handle expansion :: ts =>
    if (handles.lookup handle).isSome then none
    else readDirectives versioned (handles ++ [(handle, expansion)]) ts
  | ts => some (handles ++ defaultHandles, ts)

/-- Whether the content of a document is left out before this token. -/
def endsDocument : List Token → Bool
  | t :: _ =>
    isDirective t || t == .documentStart || t == .documentEnd || t == .streamEnd
  | [] => true

/-- The content of a document after which only end markers follow. After a start marker it may be
left out. -/
def readDocument (handles : Handles) (marked : Bool) (ts : List Token) : Option Written := do
  let fuel := 4 * ts.length + 8
  let (node, ts) ←
    if marked && endsDocument ts then some (missing, ts) else read handles fuel true false ts
  if ts.dropWhile (· == .documentEnd) == [.streamEnd] then some node else none

/-- The one node of a text's tokens, or the missing node when there is no document. -/
def ofTokens? (ts : List Token) : Option Written :=
  match ts with
  | [.streamEnd] => some missing
  | t :: rest =>
    if isDirective t || t == .documentStart then do
      let (handles, ts) ← readDirectives false [] (t :: rest)
      match ts with
      | .documentStart :: ts => readDocument handles true ts
      | _ => none
    else readDocument defaultHandles false (t :: rest)
  | [] => none

def parse? (text : List Char) : Option Written := do ofTokens? (← tokens? text)

end Node

end FeedHarvest.Yaml
