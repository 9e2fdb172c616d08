import FeedHarvest.Yaml.Node
import FeedHarvest.Yaml.Scalar

/-!
# Reading YAML

From nodes as written to trees. Anchors are numbered: the number of an anchor is how many different
names came before it, so an anchor of a name already used can share its number with a later one, and
an alias stands for the last anchor of its number wherever that is. An alias must come after an
anchor of its name.

Three things bound the tree: collections may stand `maxDepth` deep in one another, aliases may be
followed a hundred times for each event of the text, and no mapping has a key twice.
-/

namespace FeedHarvest.Yaml

namespace Node

/-! ## Numbering anchors -/

/-- The number of each name in use. -/
abbrev Names := List (String × Nat)

def nameAnchor (names : Names) : Option String → Option Nat × Names
  | none => (none, names)
  | some a => (some names.length, (a, names.length) :: names.filter (·.1 != a))

mutual

/-- Numbers the anchors of a node and puts numbers into its aliases. -/
def numbered? (names : Names) : Written → Option (Node Nat × Names)
  | .alias a => (names.lookup a).map fun n ↦ (.alias n, names)
  | .scalar p text plain =>
    let (anchor, names) := nameAnchor names p.anchor
    some (.scalar ⟨anchor, p.tag⟩ text plain, names)
  | .sequence p items => do
    let (anchor, names) := nameAnchor names p.anchor
    let (items, names) ← numberedItems? names items
    return (.sequence ⟨anchor, p.tag⟩ items, names)
  | .mapping p entries => do
    let (anchor, names) := nameAnchor names p.anchor
    let (entries, names) ← numberedEntries? names entries
    return (.mapping ⟨anchor, p.tag⟩ entries, names)

def numberedItems? (names : Names) : List Written → Option (List (Node Nat) × Names)
  | [] => some ([], names)
  | x :: xs => do
    let (y, names) ← numbered? names x
    let (ys, names) ← numberedItems? names xs
    return (y :: ys, names)

def numberedEntries? (names : Names) :
    List (Written × Written) → Option (List (Node Nat × Node Nat) × Names)
  | [] => some ([], names)
  | (k, v) :: es => do
    let (k, names) ← numbered? names k
    let (v, names) ← numbered? names v
    let (es, names) ← numberedEntries? names es
    return ((k, v) :: es, names)

end

/-! ## Anchored nodes and events -/

/-- A node under its anchor, if it has one. -/
def underAnchor (p : Properties Nat) (n : Node Nat) : List (Nat × Node Nat) :=
  p.anchor.toList.map fun a ↦ (a, n)

mutual

/-- All anchored nodes in the order in which they begin. -/
def anchored : Node Nat → List (Nat × Node Nat)
  | .alias _ => []
  | .scalar p text plain => underAnchor p (.scalar p text plain)
  | .sequence p items => underAnchor p (.sequence p items) ++ anchoredItems items
  | .mapping p entries => underAnchor p (.mapping p entries) ++ anchoredEntries entries

def anchoredItems : List (Node Nat) → List (Nat × Node Nat)
  | [] => []
  | x :: xs => anchored x ++ anchoredItems xs

def anchoredEntries : List (Node Nat × Node Nat) → List (Nat × Node Nat)
  | [] => []
  | (k, v) :: es => anchored k ++ anchored v ++ anchoredEntries es

end

mutual

/-- The events of a node: one for a scalar or an alias, a start and an end for a collection. -/
def events : Node Nat → Nat
  | .alias _ | .scalar .. => 1
  | .sequence _ items => 2 + eventsOfItems items
  | .mapping _ entries => 2 + eventsOfEntries entries

def eventsOfItems : List (Node Nat) → Nat
  | [] => 0
  | x :: xs => events x + eventsOfItems xs

def eventsOfEntries : List (Node Nat × Node Nat) → Nat
  | [] => 0
  | (k, v) :: es => events k + events v + eventsOfEntries es

end

/-! ## Trees -/

/-- How deep collections may stand in one another. -/
def maxDepth : Nat := 128

/-- A tag of the text's own, without the mark in front; a tag that is only the mark is kept. -/
def ownTag? (p : Properties Nat) : Option String := do
  match (← p.tag).toList with
  | ['!'] => some "!"
  | ['!', '!'] => some "!"
  | '!' :: '!' :: rest => some (String.ofList rest)
  | '!' :: rest => some (String.ofList rest)
  | _ => none

/-- Puts a tag of the text's own around a tree. -/
def withTag (p : Properties Nat) (v : Yaml) : Yaml :=
  match ownTag? p with
  | some t => .tagged t v
  | none => v

def scalarValue? (p : Properties Nat) (text : String) (plain : Bool) : Option Yaml :=
  match ownTag? p, p.tag with
  | none, some t => ofStandardTag? t text
  | _, _ => (if plain then untagged? text else some (.string text)).map (withTag p)

/-- What is given to every node: the anchored nodes, the last first. -/
abbrev Anchors := List (Nat × Node Nat)

mutual

/-- The tree of a node. `depth` more collections may be entered and `jumps` more aliases followed;
what is left of `jumps` is given back. -/
def value? (anchors : Anchors) (depth jumps : Nat) (n : Node Nat) : Option (Yaml × Nat) :=
  match n with
  | .alias a =>
    match jumps with
    | 0 => none
    | jumps + 1 => do content? anchors depth jumps (← anchors.lookup a)
  | n => content? anchors depth jumps n
termination_by (depth, 1)

/-- The tree of a node that is no alias. -/
def content? (anchors : Anchors) (depth jumps : Nat) (n : Node Nat) : Option (Yaml × Nat) :=
  match n, depth with
  | .alias _, _ => none
  | .scalar p text plain, _ => (scalarValue? p text plain).map (·, jumps)
  | .sequence _ _, 0 | .mapping _ _, 0 => none
  | .sequence p items, d + 1 => do
    let (vs, jumps) ← values? anchors d jumps items
    return (withTag p (.sequence vs), jumps)
  | .mapping p entries, d + 1 => do
    let (es, jumps) ← entryValues? anchors d jumps [] entries
    return (withTag p (.mapping es), jumps)
termination_by (depth, 0)

def values? (anchors : Anchors) (depth jumps : Nat) (items : List (Node Nat)) :
    Option (List Yaml × Nat) :=
  match items with
  | [] => some ([], jumps)
  | x :: xs => do
    let (v, jumps) ← value? anchors depth jumps x
    let (vs, jumps) ← values? anchors depth jumps xs
    return (v :: vs, jumps)
termination_by (depth, items.length + 2)

/-- The trees of entries after those of `before`, no key twice. -/
def entryValues? (anchors : Anchors) (depth jumps : Nat) (before : List (Yaml × Yaml))
    (entries : List (Node Nat × Node Nat)) : Option (List (Yaml × Yaml) × Nat) :=
  match entries with
  | [] => some (before.reverse, jumps)
  | (k, v) :: es => do
    let (key, jumps) ← value? anchors depth jumps k
    if before.any (fun e ↦ same key e.1) then none
    let (val, jumps) ← value? anchors depth jumps v
    entryValues? anchors depth jumps ((key, val) :: before) es
termination_by (depth, entries.length + 2)

end

end Node

def parse? (text : List Char) : Option Yaml := do
  let written ← Node.parse? text
  let (n, _) ← Node.numbered? [] written
  let (v, _) ← n.value? n.anchored.reverse Node.maxDepth (n.events * 100)
  return v

end FeedHarvest.Yaml
