import FeedHarvest.Html.Rules

/-!
# Markup fragments

A fragment of markup is read as the inside of a page's body, whatever its faults, and its text is
that of all elements in order: nothing is hidden, not even scripts and templates. Lexer and tree
builder take turns, as the tree decides what kind of text comes next.
-/

namespace FeedHarvest.Html

/-- The text with every line break as one line feed. -/
def lineFeeds : List Char → List Char
  | '\r' :: '\n' :: cs => '\n' :: lineFeeds cs
  | '\r' :: cs => '\n' :: lineFeeds cs
  | c :: cs => c :: lineFeeds cs
  | [] => []

/-- The text without a byte-order mark in front. -/
def withoutMark : List Char → List Char
  | '\uFEFF' :: cs => cs
  | cs => cs

/-- Reads a text. Each step reads a character at least, so the text's length is enough fuel. -/
def Builder.read : Nat → Builder → List Char → Builder
  | 0, b, _ => b
  | _, b, [] => b
  | fuel + 1, b, c :: cs =>
    let l := lex b.content (b.current.space != .html) c cs
    read fuel (l.tokens.foldl Builder.take { b with content := l.content }) l.rest

def fragmentText (cs : List Char) : List Char :=
  let cs := lineFeeds (withoutMark cs)
  (Builder.read cs.length {} cs).finish.tree.text

end FeedHarvest.Html
