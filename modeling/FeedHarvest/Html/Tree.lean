/-!
# Trees under construction

Markup with faults makes a tree builder move what it has placed before: text goes in front of a
table that is already there, and elements change their parents. So nodes have numbers, and a tree is
the table of its nodes; node zero is the root. A node's contents are held with the latest first,
which is where nearly all growth happens.
-/

namespace FeedHarvest.Html

/-- A part of a node's contents. -/
inductive Item where
  | char (c : Char)
  | node (id : Nat)
  deriving DecidableEq

/-- A node: where it stands, and what it holds, the latest first. -/
structure Node where
  parent : Option Nat := none
  contents : List Item := []

/-- The nodes of a tree by number. -/
structure Tree where
  nodes : Array Node

namespace Tree

def root : Tree := ⟨#[{}]⟩

/-- A node of a tree; numbers without a node have an empty one. -/
def get (t : Tree) (id : Nat) : Node := t.nodes.getD id {}

/-- The tree with one node's contents changed. -/
def modifyContents (t : Tree) (id : Nat) (f : List Item → List Item) : Tree :=
  ⟨t.nodes.modify id fun n ↦ { n with contents := f n.contents }⟩

/-- The tree with a node's parent noted. -/
def setParent (t : Tree) (id : Nat) (parent : Option Nat) : Tree :=
  ⟨t.nodes.modify id fun n ↦ { n with parent }⟩

/-- A new node that stands nowhere yet: its number is the tree's size before. -/
def create (t : Tree) : Tree := ⟨t.nodes.push {}⟩

/-- The number of the next new node. -/
def size (t : Tree) : Nat := t.nodes.size

def detach (t : Tree) (id : Nat) : Tree :=
  match (t.get id).parent with
  | some p => (t.modifyContents p (·.filter (· != .node id))).setParent id none
  | none => t

/-- Prepares an item for its new parent. -/
def adopt (t : Tree) (parent : Nat) : Item → Tree
  | .char _ => t
  | .node id => (t.detach id).setParent id (some parent)

/-- Puts an item behind all that the parent holds. -/
def append (t : Tree) (parent : Nat) (item : Item) : Tree :=
  (t.adopt parent item).modifyContents parent (item :: ·)

/-- The contents with an item right in front of a node. As the latest comes first, that is behind it
in the list. -/
def insertInFront (item : Item) (sibling : Nat) : List Item → List Item
  | [] => [item]
  | i :: is => if i = .node sibling then i :: item :: is else i :: insertInFront item sibling is

/-- Puts an item in front of a node that has the given parent. -/
def insertBefore (t : Tree) (parent sibling : Nat) (item : Item) : Tree :=
  (t.adopt parent item).modifyContents parent (insertInFront item sibling)

/-- Gives all that one node holds to an empty one. -/
def moveContents (t : Tree) (source target : Nat) : Tree :=
  let items := (t.get source).contents
  let t := (t.modifyContents source fun _ ↦ []).modifyContents target (items ++ ·)
  items.foldl
    (fun t i ↦ match i with
      | .node id => t.setParent id (some target)
      | .char _ => t) t

/-- The text inside a node in order, put in front of a text. The fuel bounds the depth. -/
def collect (t : Tree) : Nat → Nat → List Char → List Char
  | 0, _, acc => acc
  | fuel + 1, id, acc =>
    (t.get id).contents.foldl
      (fun acc i ↦ match i with
        | .char c => c :: acc
        | .node n => t.collect fuel n acc) acc

/-- All text of the tree in order. No node is deeper than there are nodes. -/
def text (t : Tree) : List Char := t.collect t.size 0 []

end Tree

end FeedHarvest.Html
