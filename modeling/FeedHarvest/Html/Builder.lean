import FeedHarvest.Html.Element
import FeedHarvest.Html.Token
import FeedHarvest.Html.Tree

/-!
# The state of tree building

A builder holds the tree so far, the elements that are open, and the formatting elements that are to
be opened again when a block has closed them. The text is a fragment: it is read as the inside of a
page's body, so the one element open at first is the root, and the body itself is never among the
open elements.

This module has the operations on the builder that the rules for tokens are made of.
-/

namespace FeedHarvest.Html

/-- Which rules are in force. -/
inductive Mode where
  | body
  | text
  | table
  | tableText
  | caption
  | columnGroup
  | tableBody
  | row
  | cell
  | select
  | selectInTable
  | template
  deriving DecidableEq

/-- A formatting element and the tag that it can be opened with again. -/
structure Formatting where
  element : Element
  tag : Tag

/-- What a tree builder knows. -/
structure Builder where
  tree : Tree := .root
  /-- The open elements, the innermost first and the root last. -/
  opened : List Element := [⟨0, .html, "html"⟩]
  /-- The formatting elements, the latest first; a missing one is the border of a table cell or the
  like, beyond which nothing is opened again. -/
  formatting : List (Option Formatting) := []
  mode : Mode := .body
  /-- The mode that follows a stretch of text. -/
  resume : Mode := .body
  /-- Text met directly inside a table, the latest first. -/
  pending : List Char := []
  /-- The modes inside the open templates, the innermost first. -/
  templateModes : List Mode := []
  /-- The open form. -/
  form : Option Element := none
  /-- Whether what a table refuses goes in front of it. -/
  fostering : Bool := false
  /-- Whether a line break that comes next is dropped. -/
  skipsBreak : Bool := false
  content : Content := .markup

namespace Builder

/-! ## Open elements -/

def root : Element := ⟨0, .html, "html"⟩

/-- The innermost open element. -/
def current (b : Builder) : Element := b.opened.headD root

/-- Whether an element that passes is open, with no end of the search before it. -/
def inScope (isEnd wanted : Element → Bool) : List Element → Bool
  | [] => false
  | e :: es => wanted e || (!isEnd e && inScope isEnd wanted es)

/-- Whether HTML's element of that name is in scope. -/
def hasInScope (b : Builder) (isEnd : Element → Bool) (name : String) : Bool :=
  inScope isEnd (·.isNamed name) b.opened

def inTemplate (b : Builder) : Bool := b.opened.any (·.isNamed "template")

def pop (b : Builder) : Builder := { b with opened := b.opened.drop 1 }

/-- Closes elements until the innermost one passes. -/
def popTo (b : Builder) (p : Element → Bool) : Builder :=
  { b with opened := b.opened.dropWhile fun e ↦ !p e }

/-- Closes elements up to and with the first that passes. -/
def popThrough (b : Builder) (p : Element → Bool) : Builder := (b.popTo p).pop

/-- Closes elements up to and with the first of that name. -/
def close (b : Builder) (name : String) : Builder := b.popThrough (·.isNamed name)

/-- Closes the innermost elements whose end may be left out. -/
def closeImplied (b : Builder) : Builder := b.popTo fun e ↦ !e.endsByItself

/-- Closes the innermost elements whose end may be left out, but none of that name. -/
def closeImpliedBut (b : Builder) (name : String) : Builder :=
  b.popTo fun e ↦ !e.endsByItself || e.isNamed name

def closeParagraph (b : Builder) : Builder := (b.closeImpliedBut "p").close "p"

/-- Closes the open paragraph if there is one. -/
def closeParagraphInScope (b : Builder) : Builder :=
  if b.hasInScope Element.isButtonScope "p" then b.closeParagraph else b

/-! ## Insertion -/

/-- Puts an item where a table sends what it refuses: in front of the innermost table. -/
def foster (t : Tree) (item : Item) : List Element → Tree
  | [] => t.append root.node item
  | e :: es =>
    if e.isNamed "template" then t.append e.node item
    else if e.isNamed "table" then
      match (t.get e.node).parent with
      | some p => t.insertBefore p e.node item
      | none => t.append (es.headD root).node item
    else foster t item es

/-- Puts an item into an element, or where the element sends it. -/
def insertInto (b : Builder) (target : Element) (item : Item) : Builder :=
  if b.fostering && target.refusesText then { b with tree := foster b.tree item b.opened }
  else { b with tree := b.tree.append target.node item }

/-- Puts a character at the current place. -/
def insertChar (b : Builder) (c : Char) : Builder := b.insertInto b.current (.char c)

/-- The element that would be created next. -/
def next (b : Builder) (space : Space) (name : String) : Element := ⟨b.tree.size, space, name⟩

/-- Creates an element that stands nowhere yet. -/
def create (b : Builder) : Builder := { b with tree := b.tree.create }

/-- Puts a new element, which is closed at once, at the current place. -/
def insertVoid (b : Builder) (space : Space) (name : String) : Builder :=
  b.create.insertInto b.current (.node (b.next space name).node)

/-- Puts a new element at the current place and leaves it open. -/
def insertIn (b : Builder) (space : Space) (name : String) : Builder :=
  let inserted := b.insertVoid space name
  { inserted with opened := b.next space name :: inserted.opened }

/-- Opens one of HTML's elements at the current place. -/
def insert (b : Builder) (name : String) : Builder := b.insertIn .html name

/-- Opens an element in which only its own end tag counts. -/
def insertRaw (b : Builder) (name : String) (content : Content) : Builder :=
  { b.insert name with resume := b.mode, mode := .text, content }

/-! ## Formatting elements -/

/-- The formatting elements after the last border, the latest first. -/
def recent (b : Builder) : List Formatting :=
  (b.formatting.takeWhile Option.isSome).filterMap id

/-- Whether an entry is of that element. -/
def isEntryOf (e : Element) (entry : Option Formatting) : Bool :=
  entry.any fun f ↦ f.element == e

/-- Whether an element is among the formatting elements. -/
def isFormatting (b : Builder) (e : Element) : Bool := b.formatting.any (isEntryOf e)

def forget (b : Builder) (e : Element) : Builder :=
  { b with formatting := b.formatting.eraseP (isEntryOf e) }

def addBorder (b : Builder) : Builder := { b with formatting := none :: b.formatting }

/-- Forgets the formatting elements after the last border, and that border. -/
def dropToBorder (b : Builder) : Builder :=
  { b with formatting := (b.formatting.dropWhile Option.isSome).drop 1 }

/-- Opens a formatting element and remembers it. -/
def insertFormatting (b : Builder) (t : Tag) : Builder :=
  let inserted := b.insert t.name
  { inserted with formatting := some ⟨b.next .html t.name, t⟩ :: inserted.formatting }

/-- Whether a formatting element has been closed by something else. -/
def isClosed (b : Builder) : Option Formatting → Bool
  | some f => !b.opened.contains f.element
  | none => false

/-- Opens the formatting elements again that were closed since the last one still open. -/
def reopen (b : Builder) : Builder :=
  let closed := b.formatting.takeWhile b.isClosed
  (closed.filterMap id).foldr (fun f b ↦ b.insertFormatting f.tag)
    { b with formatting := b.formatting.drop closed.length }

/-- Opens a formatting element. Of elements that are alike, the latest three are remembered. -/
def addFormatting (b : Builder) (t : Tag) : Builder :=
  let same := b.recent.filter fun f ↦ f.tag.alike t
  match same[2]?, same.getLast? with
  | some _, some f => (b.forget f.element).insertFormatting t
  | _, _ => b.insertFormatting t

/-! ## Modes -/

/-- The mode inside a selection, by the elements around it. -/
def selectionMode : List Element → Mode
  | [] => .select
  | e :: es =>
    if e.isNamed "template" then .select
    else if e.isNamed "table" then .selectInTable
    else selectionMode es

/-- The mode that the open elements ask for. -/
def modeOf (templateModes : List Mode) : List Element → Mode
  | [] | [_] => .body
  | e :: es =>
    if e.space != .html then modeOf templateModes es
    else match e.name with
      | "select" => selectionMode es
      | "td" | "th" => .cell
      | "tr" => .row
      | "tbody" | "thead" | "tfoot" => .tableBody
      | "caption" => .caption
      | "colgroup" => .columnGroup
      | "table" => .table
      | "template" => templateModes.headD .body
      | _ => modeOf templateModes es

/-- Takes up the mode that the open elements ask for. -/
def resetMode (b : Builder) : Builder := { b with mode := modeOf b.templateModes b.opened }

/-- Replaces the mode inside the innermost template and takes it up. -/
def templateMode (b : Builder) (m : Mode) : Builder :=
  { b with templateModes := m :: b.templateModes.drop 1, mode := m }

end Builder

end FeedHarvest.Html
