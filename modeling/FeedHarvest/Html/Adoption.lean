import FeedHarvest.Html.Builder

/-!
# Ends of formatting elements

A formatting element may be closed while blocks inside it are still open: `<b>one<p>two</b>three`.
Then what the outermost such block holds goes on being formatted, but what comes later does not. So
the elements between the formatting element and the block are copied around the block, and a copy of
the formatting element takes over what the block holds.
-/

namespace FeedHarvest.Html.Builder

/-- Closes the innermost element of that name, unless a block is open inside it. -/
def endOther (b : Builder) (name : String) : Builder :=
  match b.opened.find? fun e ↦ e.isNamed name || e.isSpecial with
  | some e => if e.isNamed name then b.popThrough (· == e) else b
  | none => b

/-- The work on the elements between a formatting element and the block inside it. -/
structure Lifting where
  builder : Builder
  /-- The copies made, the innermost first. -/
  copies : List Element := []
  /-- The outermost element that holds the block so far. -/
  last : Element
  /-- The first copy: the entry after which the formatting element's new entry goes. -/
  mark : Option Element := none
  /-- How many elements have been looked at. -/
  count : Nat := 0

/-- Copies an element between the formatting element and the block. Only the three innermost
formatting elements are kept. -/
def Lifting.step (l : Lifting) (e : Element) : Lifting :=
  let l := { l with count := l.count + 1 }
  if 3 < l.count then { l with builder := l.builder.forget e }
  else
    match (l.builder.formatting.filterMap id).find? (·.element == e) with
    | none => l
    | some f =>
      let copy := l.builder.next .html f.tag.name
      let b := l.builder.create
      let renewed := b.formatting.map fun entry ↦
        if isEntryOf e entry then some ⟨copy, f.tag⟩ else entry
      { l with
        builder := { b with
          formatting := renewed, tree := b.tree.append copy.node (.node l.last.node) }
        copies := l.copies ++ [copy]
        last := copy
        mark := l.mark <|> some copy }

/-- Puts a new entry behind the marked one, and takes the old entry away. Without a mark it takes
the old one's place. -/
def renewEntry (old : Element) (mark : Option Element) (new : Formatting)
    (entries : List (Option Formatting)) : List (Option Formatting) :=
  match mark with
  | none => entries.map fun entry ↦ if isEntryOf old entry then some new else entry
  | some m =>
    (entries.flatMap fun entry ↦ if isEntryOf m entry then [some new, entry] else [entry]).eraseP
      (isEntryOf old)

/-- One round at the end of a formatting element, and whether another one follows. -/
def adoptOnce (b : Builder) (name : String) : Builder × Bool :=
  match b.recent.find? (·.tag.name == name) with
  | none => (b.endOther name, false)
  | some f =>
    if !b.opened.contains f.element then (b.forget f.element, false)
    else if !inScope Element.isScope (· == f.element) b.opened then (b, false)
    else
      let inside := b.opened.takeWhile (· != f.element)
      let outside := b.opened.drop (inside.length + 1)
      match inside.reverse.find? Element.isSpecial with
      | none => ({ b with opened := outside }.forget f.element, false)
      | some block =>
        let inBlock := inside.takeWhile (· != block)
        let between := inside.drop (inBlock.length + 1)
        let lifted := between.foldl Lifting.step { builder := b, last := block }
        let b := lifted.builder
        let b := { b with tree := b.tree.detach lifted.last.node }
        let b := b.insertInto (outside.headD root) (.node lifted.last.node)
        let copy := b.next .html f.tag.name
        let b := b.create
        let tree := (b.tree.moveContents block.node copy.node).append block.node (.node copy.node)
        ({ b with
            tree
            formatting := renewEntry f.element lifted.mark ⟨copy, f.tag⟩ b.formatting
            opened := inBlock ++ copy :: block :: lifted.copies ++ outside }, true)

/-- Up to `n` rounds at the end of a formatting element. -/
def adopt (name : String) : Nat → Builder → Builder
  | 0, b => b
  | n + 1, b =>
    match b.adoptOnce name with
    | (b, true) => adopt name n b
    | (b, false) => b

/-- The end of a formatting element. No more than eight blocks are left formatted. -/
def endFormatting (b : Builder) (name : String) : Builder :=
  if b.current.isNamed name && !b.isFormatting b.current then b.pop else adopt name 8 b

/-- A link inside a link ends the outer one. -/
def endOuterLink (b : Builder) : Builder :=
  match b.recent.find? (·.element.isNamed "a") with
  | none => b
  | some f =>
    let b := (b.endFormatting "a").forget f.element
    { b with opened := b.opened.erase f.element }

end FeedHarvest.Html.Builder
