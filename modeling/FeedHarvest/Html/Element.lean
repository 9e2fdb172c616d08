/-!
# Elements

An element is known by its node, its namespace and its name. Most rules of markup are about sets of
names: what closes what, and where a search for an open element stops. Sets of names are of HTML's
own elements, unless they say otherwise.
-/

namespace FeedHarvest.Html

/-- Whose element it is. -/
inductive Space where
  | html
  | svg
  | mathml
  deriving DecidableEq

/-- An element, by its node in the tree. -/
structure Element where
  node : Nat
  space : Space
  name : String
  deriving DecidableEq

namespace Element

/-- Whether it is HTML's element of that name. -/
def isNamed (name : String) (e : Element) : Bool := e.space == .html && e.name == name

/-- Whether it is one of HTML's elements of those names. -/
def isOneOf (names : List String) (e : Element) : Bool := e.space == .html && names.contains e.name

/-- Elements of mathematics that hold text. -/
def isMathText (e : Element) : Bool :=
  e.space == .mathml && ["mi", "mo", "mn", "ms", "mtext"].contains e.name

/-- Elements of graphics that hold markup. -/
def isMarkupInGraphics (e : Element) : Bool :=
  e.space == .svg && ["foreignobject", "desc", "title"].contains e.name

/-- The ends of a search in general. -/
def isScope (e : Element) : Bool :=
  e.isOneOf ["applet", "caption", "html", "table", "td", "th", "marquee", "object", "template"] ||
    e.isMathText || e.isMarkupInGraphics

/-- The ends of a search for list items. -/
def isListScope (e : Element) : Bool := e.isScope || e.isOneOf ["ol", "ul"]

/-- The ends of a search for paragraphs. -/
def isButtonScope (e : Element) : Bool := e.isScope || e.isNamed "button"

/-- The ends of a search for parts of a table. -/
def isTableScope (e : Element) : Bool := e.isOneOf ["html", "table", "template"]

/-- The ends of a search for a selection: all but the parts of one. -/
def isSelectScope (e : Element) : Bool := !e.isOneOf ["optgroup", "option"]

def isHeading (e : Element) : Bool := e.isOneOf ["h1", "h2", "h3", "h4", "h5", "h6"]

def isCell (e : Element) : Bool := e.isOneOf ["td", "th"]

/-- Where rows may stand, and where a search for that place stops. -/
def holdsRows (e : Element) : Bool := e.isOneOf ["tbody", "tfoot", "thead", "template", "html"]

/-- Where cells may stand, and where a search for that place stops. -/
def holdsCells (e : Element) : Bool := e.isOneOf ["tr", "template", "html"]

/-- Parts of a table that hold no text themselves. -/
def refusesText (e : Element) : Bool := e.isOneOf ["table", "tbody", "tfoot", "thead", "tr"]

/-- Elements whose end may be left out. -/
def endsByItself (e : Element) : Bool :=
  e.isOneOf ["dd", "dt", "li", "option", "optgroup", "p", "rb", "rp", "rt", "rtc"]

/-- Elements whose end may be left out at the end of a template. -/
def endsInTemplate (e : Element) : Bool :=
  e.endsByItself ||
    e.isOneOf ["caption", "colgroup", "tbody", "td", "tfoot", "th", "thead", "tr"]

/-- Elements that are more than a piece of a line. -/
def isSpecial (e : Element) : Bool :=
  e.isOneOf ["address", "applet", "area", "article", "aside", "base", "basefont", "bgsound",
    "blockquote", "body", "br", "button", "caption", "center", "col", "colgroup", "dd", "details",
    "dir", "div", "dl", "dt", "embed", "fieldset", "figcaption", "figure", "footer", "form",
    "frame",
    "frameset", "h1", "h2", "h3", "h4", "h5", "h6", "head", "header", "hgroup", "hr", "html",
    "iframe", "img", "input", "isindex", "li", "link", "listing", "main", "marquee", "menu", "meta",
    "nav", "noembed", "noframes", "noscript", "object", "ol", "p", "param", "plaintext", "pre",
    "script", "section", "select", "source", "style", "summary", "table", "tbody", "td", "template",
    "textarea", "tfoot", "th", "thead", "title", "tr", "track", "ul", "wbr", "xmp"]

end Element

end FeedHarvest.Html
