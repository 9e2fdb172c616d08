import FeedHarvest.Html.Adoption

/-!
# What tokens do

The rules of tree building, by mode. Most modes handle a few tags themselves and leave the rest to
another mode, so the rules stand in the order in which they call each other. A rule either finishes
with a token, or closes some elements and has the token looked at again in the mode that follows.
-/

namespace FeedHarvest.Html

/-- Whether a token is finished with. -/
inductive Outcome where
  | done (builder : Builder)
  | again (builder : Builder)

namespace Builder

/-! ## Tags that belong into a page's head -/

def startTemplate (b : Builder) : Builder :=
  let b := (b.insert "template").addBorder
  { b with mode := .template, templateModes := .template :: b.templateModes }

def endTemplate (b : Builder) : Builder :=
  if b.inTemplate then
    let b := ((b.popTo fun e ↦ !e.endsInTemplate).close "template").dropToBorder
    { b with templateModes := b.templateModes.drop 1 }.resetMode
  else b

/-- Start tags that mean the same everywhere: what they hold is not shown with the text around. -/
def startHidden (b : Builder) (name : String) : Builder :=
  match name with
  | "title" => b.insertRaw name (.escapable name)
  | "noframes" | "style" => b.insertRaw name (.raw name)
  | "script" => b.insertRaw name (.script .outside)
  | "template" => b.startTemplate
  | _ => b.insertVoid .html name

/-- The tags of which `startHidden` is the rule. -/
def hiddenTags : List String :=
  ["base", "basefont", "bgsound", "link", "meta", "noframes", "script", "style", "template",
    "title"]

/-! ## Bodies -/

/-- A list item or the like begins; one that is open ends first. -/
def startListItem (b : Builder) (names : List String) (name : String) : Builder :=
  let stops (e : Element) : Bool :=
    e.isOneOf names || (e.isSpecial && !e.isOneOf ["address", "div", "p"])
  let b := match b.opened.find? stops with
    | some e => if e.isOneOf names then (b.closeImpliedBut e.name).close e.name else b
    | none => b
  b.closeParagraphInScope.insert name

/-- An element of another namespace begins. -/
def startForeign (b : Builder) (space : Space) (t : Tag) : Builder :=
  if t.selfClosing then b.insertVoid space t.name else b.insertIn space t.name

def startInBody (b : Builder) (t : Tag) : Builder :=
  if hiddenTags.contains t.name then b.startHidden t.name
  else match t.name with
  | "html" | "body" | "frameset" | "caption" | "col" | "colgroup" | "frame" | "head" | "tbody"
  | "td"
  | "tfoot" | "th" | "thead" | "tr" => b
  | "address" | "article" | "aside" | "blockquote" | "center" | "details" | "dialog" | "dir" | "div"
  | "dl" | "fieldset" | "figcaption" | "figure" | "footer" | "header" | "hgroup" | "main" | "menu"
  | "nav" | "ol" | "p" | "section" | "summary" | "ul" => b.closeParagraphInScope.insert t.name
  | "h1" | "h2" | "h3" | "h4" | "h5" | "h6" =>
    let b := b.closeParagraphInScope
    (if b.current.isHeading then b.pop else b).insert t.name
  | "pre" | "listing" => { b.closeParagraphInScope.insert t.name with skipsBreak := true }
  | "form" =>
    if b.form.isSome && !b.inTemplate then b
    else
      let b := b.closeParagraphInScope
      let opened := b.insert t.name
      if b.inTemplate then opened else { opened with form := some (b.next .html t.name) }
  | "li" => b.startListItem ["li"] t.name
  | "dd" | "dt" => b.startListItem ["dd", "dt"] t.name
  | "plaintext" => { b.closeParagraphInScope.insert t.name with content := .plain }
  | "button" =>
    let b := if b.hasInScope Element.isScope "button" then b.closeImplied.close "button" else b
    b.reopen.insert t.name
  | "a" => b.endOuterLink.reopen.addFormatting t
  | "b" | "big" | "code" | "em" | "font" | "i" | "s" | "small" | "strike" | "strong" | "tt" | "u" =>
    b.reopen.addFormatting t
  | "nobr" =>
    let b := b.reopen
    let b := if b.hasInScope Element.isScope "nobr" then (b.endFormatting "nobr").reopen else b
    b.addFormatting t
  | "applet" | "marquee" | "object" => (b.reopen.insert t.name).addBorder
  | "table" => { b.closeParagraphInScope.insert t.name with mode := .table }
  | "area" | "br" | "embed" | "img" | "image" | "keygen" | "wbr" | "input" =>
    b.reopen.insertVoid .html t.name
  | "param" | "source" | "track" => b.insertVoid .html t.name
  | "hr" => b.closeParagraphInScope.insertVoid .html t.name
  | "textarea" => { b.insertRaw t.name (.escapable t.name) with skipsBreak := true }
  | "xmp" => b.closeParagraphInScope.reopen.insertRaw t.name (.raw t.name)
  | "iframe" | "noembed" | "noscript" => b.insertRaw t.name (.raw t.name)
  | "select" =>
    let inTable := [Mode.table, .caption, .tableBody, .row, .cell].contains b.mode
    { b.reopen.insert t.name with mode := if inTable then .selectInTable else .select }
  | "optgroup" | "option" =>
    (if b.current.isNamed "option" then b.pop else b).reopen.insert t.name
  | "rb" | "rtc" =>
    (if b.hasInScope Element.isScope "ruby" then b.closeImplied else b).insert t.name
  | "rp" | "rt" =>
    (if b.hasInScope Element.isScope "ruby" then b.closeImpliedBut "rtc" else b).insert t.name
  | "math" => b.reopen.startForeign .mathml t
  | "svg" => b.reopen.startForeign .svg t
  | name => b.reopen.insert name

def endForm (b : Builder) : Builder :=
  if b.inTemplate then
    if b.hasInScope Element.isScope "form" then b.closeImplied.close "form" else b
  else
    match b.form with
    | none => b
    | some f =>
      let b := { b with form := none }
      if inScope Element.isScope (· == f) b.opened then
        let b := b.closeImplied
        { b with opened := b.opened.erase f }
      else b

def endInBody (b : Builder) (name : String) : Builder :=
  match name with
  | "template" => b.endTemplate
  | "body" | "html" => b
  | "address" | "article" | "aside" | "blockquote" | "button" | "center" | "details" | "dialog"
  | "dir" | "div" | "dl" | "fieldset" | "figcaption" | "figure" | "footer" | "header" | "hgroup"
  | "listing" | "main" | "menu" | "nav" | "ol" | "pre" | "section" | "summary" | "ul" =>
    if b.hasInScope Element.isScope name then b.closeImplied.close name else b
  | "form" => b.endForm
  | "p" =>
    let b := if b.hasInScope Element.isButtonScope "p" then b else b.insert "p"
    b.closeParagraph
  | "li" =>
    if b.hasInScope Element.isListScope name then (b.closeImpliedBut name).close name else b
  | "dd" | "dt" =>
    if b.hasInScope Element.isScope name then (b.closeImpliedBut name).close name else b
  | "h1" | "h2" | "h3" | "h4" | "h5" | "h6" =>
    if inScope Element.isScope Element.isHeading b.opened then
      b.closeImplied.popThrough Element.isHeading
    else b
  | "a" | "b" | "big" | "code" | "em" | "font" | "i" | "nobr" | "s" | "small" | "strike" | "strong"
  | "tt" | "u" => b.endFormatting name
  | "applet" | "marquee" | "object" =>
    if b.hasInScope Element.isScope name then (b.closeImplied.close name).dropToBorder else b
  | "br" => b.reopen.insertVoid .html name
  | _ => b.endOther name

def inBody (b : Builder) : Token → Builder
  | .text c => b.reopen.insertChar c
  | .startTag t => b.startInBody t
  | .endTag name => b.endInBody name
  | _ => b

/-- A token that a table refuses. -/
def inFrontOfTable (b : Builder) (t : Token) : Builder :=
  { ({ b with fostering := true }).inBody t with fostering := false }

/-! ## Tables -/

/-- Blank characters, which may stand directly in a table. -/
def isTableBlank (c : Char) : Bool := isGap c || c == '\r'

/-- Places the text that was met directly inside a table: there if it is blank, else in front. -/
def placePending (b : Builder) : Builder :=
  let text := b.pending.reverse
  let b := { b with pending := [] }
  if text.all isTableBlank then text.foldl insertChar b
  else text.foldl (fun b c ↦ b.inFrontOfTable (.text c)) b

/-- A token after text in a table. -/
def inTableText (b : Builder) : Token → Outcome
  | .text c => .done { b with pending := c :: b.pending }
  | .null => .done b
  | _ => .again { b.placePending with mode := b.resume }

/-- A form begins in a table: it is closed at once. -/
def startFormInTable (b : Builder) : Builder :=
  if b.inTemplate || b.form.isSome then b
  else { b.insertVoid .html "form" with form := some (b.next .html "form") }

def inTable (b : Builder) (token : Token) : Outcome :=
  match token with
  | .text _ | .null =>
    if b.current.refusesText then .again { b with mode := .tableText, resume := b.mode }
    else .done (b.inFrontOfTable token)
  | .startTag t =>
    match t.name with
    | "caption" =>
      .done { ((b.popTo Element.isTableScope).addBorder).insert t.name with mode := .caption }
    | "colgroup" =>
      .done { (b.popTo Element.isTableScope).insert t.name with mode := .columnGroup }
    | "col" =>
      .again { (b.popTo Element.isTableScope).insert "colgroup" with mode := .columnGroup }
    | "tbody" | "tfoot" | "thead" =>
      .done { (b.popTo Element.isTableScope).insert t.name with mode := .tableBody }
    | "td" | "th" | "tr" =>
      .again { (b.popTo Element.isTableScope).insert "tbody" with mode := .tableBody }
    | "table" =>
      if b.hasInScope Element.isTableScope "table" then .again (b.close "table").resetMode
      else .done b
    | "style" | "script" | "template" => .done (b.startHidden t.name)
    | "input" =>
      if (t.get? "type").any fun v ↦ String.ofList (v.toList.map Char.toLower) == "hidden" then
        .done (b.insertVoid .html t.name)
      else .done (b.inFrontOfTable token)
    | "form" => .done b.startFormInTable
    | _ => .done (b.inFrontOfTable token)
  | .endTag name =>
    match name with
    | "table" =>
      if b.hasInScope Element.isTableScope "table" then .done (b.close "table").resetMode
      else .done b
    | "template" => .done b.endTemplate
    | "body" | "caption" | "col" | "colgroup" | "html" | "tbody" | "td" | "tfoot" | "th" | "thead"
    | "tr" => .done b
    | _ => .done (b.inFrontOfTable token)
  | _ => .done b

def inCaption (b : Builder) (token : Token) : Outcome :=
  let ended := { ((b.closeImplied).close "caption").dropToBorder with mode := .table }
  let isOpen := b.hasInScope Element.isTableScope "caption"
  match token with
  | .startTag t =>
    if ["caption", "col", "colgroup", "tbody", "td", "tfoot", "th", "thead", "tr"].contains t.name
    then if isOpen then .again ended else .done b
    else .done (b.inBody token)
  | .endTag name =>
    match name with
    | "caption" => .done (if isOpen then ended else b)
    | "table" => if isOpen then .again ended else .done b
    | "body" | "col" | "colgroup" | "html" | "tbody" | "td" | "tfoot" | "th" | "thead" | "tr" =>
      .done b
    | _ => .done (b.inBody token)
  | _ => .done (b.inBody token)

def inColumnGroup (b : Builder) (token : Token) : Outcome :=
  let isOpen := b.current.isNamed "colgroup"
  let left := if isOpen then Outcome.again { b.pop with mode := .table } else .done b
  match token with
  | .text c => if isTableBlank c then .done (b.insertChar c) else left
  | .startTag t =>
    match t.name with
    | "html" => .done b
    | "col" => .done (b.insertVoid .html t.name)
    | "template" => .done b.startTemplate
    | _ => left
  | .endTag name =>
    match name with
    | "colgroup" => .done (if isOpen then { b.pop with mode := .table } else b)
    | "col" => .done b
    | "template" => .done b.endTemplate
    | _ => left
  | .null => left
  | _ => .done b

def inTableBody (b : Builder) (token : Token) : Outcome :=
  let left :=
    if inScope Element.isTableScope (·.isOneOf ["table", "tbody", "tfoot"]) b.opened then
      Outcome.again { (b.popTo Element.holdsRows).pop with mode := .table }
    else .done b
  match token with
  | .startTag t =>
    match t.name with
    | "tr" => .done { (b.popTo Element.holdsRows).insert t.name with mode := .row }
    | "th" | "td" => .again { (b.popTo Element.holdsRows).insert "tr" with mode := .row }
    | "caption" | "col" | "colgroup" | "tbody" | "tfoot" | "thead" => left
    | _ => b.inTable token
  | .endTag name =>
    match name with
    | "tbody" | "tfoot" | "thead" =>
      if b.hasInScope Element.isTableScope name then
        .done { (b.popTo Element.holdsRows).pop with mode := .table }
      else .done b
    | "table" => left
    | "body" | "caption" | "col" | "colgroup" | "html" | "td" | "th" | "tr" => .done b
    | _ => b.inTable token
  | _ => b.inTable token

def inRow (b : Builder) (token : Token) : Outcome :=
  let isOpen := b.hasInScope Element.isTableScope "tr"
  let ended := { (b.popTo Element.holdsCells).pop with mode := .tableBody }
  let left := if isOpen then Outcome.again ended else .done b
  match token with
  | .startTag t =>
    match t.name with
    | "th" | "td" =>
      .done { (b.popTo Element.holdsCells).insert t.name with mode := .cell }.addBorder
    | "caption" | "col" | "colgroup" | "tbody" | "tfoot" | "thead" | "tr" => left
    | _ => b.inTable token
  | .endTag name =>
    match name with
    | "tr" => .done (if isOpen then ended else b)
    | "table" => left
    | "tbody" | "tfoot" | "thead" =>
      if b.hasInScope Element.isTableScope name then left else .done b
    | "body" | "caption" | "col" | "colgroup" | "html" | "td" | "th" => .done b
    | _ => b.inTable token
  | _ => b.inTable token

def inCell (b : Builder) (token : Token) : Outcome :=
  let ended := { ((b.closeImplied).popThrough Element.isCell).dropToBorder with mode := .row }
  match token with
  | .startTag t =>
    if ["caption", "col", "colgroup", "tbody", "td", "tfoot", "th", "thead", "tr"].contains t.name
    then if inScope Element.isTableScope Element.isCell b.opened then .again ended else .done b
    else .done (b.inBody token)
  | .endTag name =>
    match name with
    | "td" | "th" =>
      if b.hasInScope Element.isTableScope name then
        .done { ((b.closeImplied).close name).dropToBorder with mode := .row }
      else .done b
    | "body" | "caption" | "col" | "colgroup" | "html" => .done b
    | "table" | "tbody" | "tfoot" | "thead" | "tr" =>
      if b.hasInScope Element.isTableScope name then .again ended else .done b
    | _ => .done (b.inBody token)
  | _ => .done (b.inBody token)

/-! ## Selections -/

/-- A token in a selection, of which only the text and the options count. -/
def inSelect (b : Builder) (token : Token) : Outcome :=
  let isOpen := b.hasInScope Element.isSelectScope "select"
  let ended := (b.close "select").resetMode
  match token with
  | .text c => .done (b.insertChar c)
  | .startTag t =>
    match t.name with
    | "option" => .done ((if b.current.isNamed "option" then b.pop else b).insert t.name)
    | "optgroup" =>
      let b := if b.current.isNamed "option" then b.pop else b
      .done ((if b.current.isNamed "optgroup" then b.pop else b).insert t.name)
    | "select" => .done (if isOpen then ended else b)
    | "input" | "keygen" | "textarea" => if isOpen then .again ended else .done b
    | "script" | "template" => .done (b.startHidden t.name)
    | _ => .done b
  | .endTag name =>
    match name with
    | "optgroup" =>
      let inGroup := (b.opened.drop 1).head?.any (·.isNamed "optgroup")
      let b := if b.current.isNamed "option" && inGroup then b.pop else b
      .done (if b.current.isNamed "optgroup" then b.pop else b)
    | "option" => .done (if b.current.isNamed "option" then b.pop else b)
    | "select" => .done (if isOpen then ended else b)
    | "template" => .done b.endTemplate
    | _ => .done b
  | _ => .done b

/-- A token in a selection inside a table: parts of the table end the selection. -/
def inSelectInTable (b : Builder) (token : Token) : Outcome :=
  let parts := ["caption", "table", "tbody", "tfoot", "thead", "tr", "td", "th"]
  let ended := (b.close "select").resetMode
  match token with
  | .startTag t => if parts.contains t.name then .again ended else b.inSelect token
  | .endTag name =>
    if parts.contains name then
      if b.hasInScope Element.isTableScope name then .again ended else .done b
    else b.inSelect token
  | _ => b.inSelect token

/-! ## Templates, foreign elements, and all modes -/

/-- A token in a template, whose first tag says what the template is a part of. -/
def inTemplateMode (b : Builder) (token : Token) : Outcome :=
  match token with
  | .startTag t =>
    if hiddenTags.contains t.name then .done (b.startHidden t.name)
    else match t.name with
    | "caption" | "colgroup" | "tbody" | "tfoot" | "thead" => .again (b.templateMode .table)
    | "col" => .again (b.templateMode .columnGroup)
    | "tr" => .again (b.templateMode .tableBody)
    | "td" | "th" => .again (b.templateMode .row)
    | _ => .again (b.templateMode .body)
  | .endTag name => .done (if name == "template" then b.endTemplate else b)
  | _ => .done (b.inBody token)

/-- A token inside an element in which only its own end tag counts. -/
def inText (b : Builder) : Token → Builder
  | .text c => b.insertChar c
  | .endTag _ => { b.pop with mode := b.resume }
  | _ => b

/-- The rules of the mode in force. -/
def byMode (b : Builder) (token : Token) : Outcome :=
  match b.mode with
  | .body => .done (b.inBody token)
  | .text => .done (b.inText token)
  | .table => b.inTable token
  | .tableText => b.inTableText token
  | .caption => b.inCaption token
  | .columnGroup => b.inColumnGroup token
  | .tableBody => b.inTableBody token
  | .row => b.inRow token
  | .cell => b.inCell token
  | .select => b.inSelect token
  | .selectInTable => b.inSelectInTable token
  | .template => b.inTemplateMode token

/-- Tags of HTML that end all foreign elements around them. -/
def breaksOut (t : Tag) : Bool :=
  ["b", "big", "blockquote", "body", "br", "center", "code", "dd", "div", "dl", "dt", "em", "embed",
    "h1", "h2", "h3", "h4", "h5", "h6", "head", "hr", "i", "img", "li", "listing", "menu", "meta",
    "nobr", "ol", "p", "pre", "ruby", "s", "small", "span", "strong", "strike", "sub", "sup",
    "table",
    "tt", "u", "ul", "var"].contains t.name ||
  (t.name == "font" && t.attributes.any fun a ↦ ["color", "face", "size"].contains a.1)

/-- An end tag in a foreign element. `inner` says whether an element has been passed over. -/
def endInForeign (b : Builder) (name : String) (inner : Bool) : List Element → Outcome
  | [] | [_] => .done b
  | e :: es =>
    if inner && e.space == .html then b.byMode (.endTag name)
    else if e.name == name then .done { b with opened := es }
    else b.endInForeign name true es

def inForeign (b : Builder) (token : Token) : Outcome :=
  let brokenOut := b.popTo fun e ↦ e.space == .html || e.isMathText || e.isMarkupInGraphics
  match token with
  | .null => .done (b.insertChar Reference.replacement)
  | .text c => .done (b.insertChar c)
  | .startTag t =>
    if breaksOut t then brokenOut.byMode token else .done (b.startForeign b.current.space t)
  | .endTag name =>
    if name == "br" || name == "p" then brokenOut.byMode token
    else b.endInForeign name false b.opened
  | _ => .done b

/-- Whether the rules of foreign elements apply to a token. -/
def isForeign (b : Builder) (token : Token) : Bool :=
  let e := b.current
  if e.space == .html then false
  else match token with
    | .text _ | .null => !(e.isMathText || e.isMarkupInGraphics)
    | .startTag t =>
      !(e.isMarkupInGraphics || (e.isMathText && t.name != "mglyph" && t.name != "malignmark") ||
        (e.space == .mathml && e.name == "annotation-xml" && t.name == "svg"))
    | _ => true

/-- Looks at a token until it is finished with. The fuel bounds how often. -/
def settle : Nat → Builder → Token → Builder
  | 0, b, _ => b
  | fuel + 1, b, token =>
    match if b.isForeign token then b.inForeign token else b.byMode token with
    | .done b => b
    | .again b => settle fuel b token

/-- What a token does. Each time it is looked at again an element has been closed, or the mode is
one step further in a table, so twice the number of open elements is enough. -/
def take (b : Builder) (token : Token) : Builder :=
  let calm := { b with skipsBreak := false }
  match token with
  | .fault | .doctype => calm
  | .text c =>
    if b.skipsBreak && c == '\n' then calm else settle (2 * b.opened.length + 8) calm token
  | _ => settle (2 * b.opened.length + 8) calm token

/-- What the text's end does: text still waiting in a table is placed. -/
def finish (b : Builder) : Builder := if b.mode == .tableText then b.placePending else b

end Builder

end FeedHarvest.Html
