import TextCharts.Html.Formatting

/-!
What a token does in each mode. A rule returns the new state, and whether the token is to be looked
at again in the mode that the state is in then.
-/

namespace TextCharts.Html.Builder

inductive Step
  | done (b : Builder)
  | again (b : Builder)

namespace Step

def builder : Step → Builder
  | done b => b
  | again b => b

-- The token again, in another mode.
def goto (b : Builder) (mode : Mode) : Step :=
  again (b.goto mode)

end Step

open Step (done again)

def isSpaceToken : Token → Bool
  | .char c => isSpace c
  | _ => false

-- The root, with which every page begins.
def openRoot (b : Builder) (attributes : List (String × String)) : Builder :=
  (b.insertOpen { name := "html", attributes }).1

def addToRoot (b : Builder) (tag : Tag) : Builder :=
  if b.hasOpen "template" then b
  else { b with tree := b.tree.addAttributes 0 tag.attributes }

def initial (b : Builder) (token : Token) : Step :=
  if isSpaceToken token then done b
  else match token with
    | .doctype d => done { b with old := d.isOld, mode := .beforeHtml }
    | _ => .goto { b with old := true } .beforeHtml

def beforeHtml (b : Builder) (token : Token) : Step :=
  let implied : Step := .goto (b.openRoot []) .beforeHead
  if isSpaceToken token then done b
  else match token with
    | .openTag tag =>
      if tag.name = "html" then done ((b.openRoot tag.attributes).goto .beforeHead) else implied
    | .closeTag name =>
      if ["head", "body", "html", "br"].contains name then implied else done b
    | _ => implied

def openHead (b : Builder) (tag : Tag) : Builder :=
  let (b, node) := b.insertOpen (elementOf tag)
  { b with head := some node, mode := .inHead }

def beforeHead (b : Builder) (token : Token) : Step :=
  let implied : Step := again (b.openHead { name := "head" })
  if isSpaceToken token then done b
  else match token with
    | .openTag tag =>
      if tag.name = "html" then done (b.addToRoot tag)
      else if tag.name = "head" then done (b.openHead tag)
      else implied
    | .closeTag name =>
      if ["head", "body", "html", "br"].contains name then implied else done b
    | _ => implied

def openTemplate (b : Builder) (tag : Tag) : Builder :=
  let b := (b.openTag tag).addBorder
  { b with framesOk := false, mode := .inTemplate, templates := .inTemplate :: b.templates }

def closeTemplate (b : Builder) : Builder :=
  if b.hasOpen "template" then
    let b := ((b.closeImplied Element.allOptionalEnds).popUntil ["template"]).clearToBorder
    { b with templates := b.templates.tail }.fit
  else b

-- Tags of the head that may stand anywhere.
def headTags : List String :=
  ["base", "basefont", "bgsound", "link", "meta", "noframes", "script", "style", "template",
   "title"]

-- What a tag of the head does, wherever it stands.
def headTag (b : Builder) (tag : Tag) : Builder :=
  match tag.name with
  | "template" => b.openTemplate tag
  | "title" | "noframes" | "style" | "script" => b.openRaw tag
  | _ => b.addTag tag

def inHead (b : Builder) (token : Token) : Step :=
  let implied : Step := .goto b.pop .afterHead
  if isSpaceToken token then done b
  else match token with
    | .openTag tag =>
      if tag.name = "html" then done (b.addToRoot tag)
      else if headTags.contains tag.name then done (b.headTag tag)
      else if tag.name = "noscript" then done (b.openRaw tag)
      else if tag.name = "head" then done b
      else implied
    | .closeTag name =>
      if name = "head" then done (b.pop.goto .afterHead)
      else if name = "template" then done b.closeTemplate
      else if ["body", "html", "br"].contains name then implied
      else done b
    | _ => implied

-- The head is open again for one tag.
def reopenHead (b : Builder) (tag : Tag) : Builder :=
  match b.head with
  | none => b
  | some head => ({ b with stack := head :: b.stack }.headTag tag).removeOpen head

def afterHead (b : Builder) (token : Token) : Step :=
  let implied : Step := .goto (b.openName "body") .inBody
  if isSpaceToken token then done b
  else match token with
    | .openTag tag =>
      if tag.name = "html" then done (b.addToRoot tag)
      else if tag.name = "body" then done ((b.openTag tag).noFrames.goto .inBody)
      else if tag.name = "frameset" then done ((b.openTag tag).goto .inFrameset)
      else if headTags.contains tag.name then done (b.reopenHead tag)
      else if tag.name = "head" then done b
      else implied
    | .closeTag name =>
      if name = "template" then done b.closeTemplate
      else if ["body", "html", "br"].contains name then implied
      else done b
    | _ => implied

-- The end of a page inside a template closes the template first.
def finishTemplate (b : Builder) : Step :=
  if b.hasOpen "template" then
    let b := (b.popUntil ["template"]).clearToBorder
    again { b with templates := b.templates.tail }.fit
  else done b

def bodyChar (b : Builder) (c : Char) : Builder :=
  let b := b.reopen
  if isSpace c then b else b.noFrames

-- Attributes of a second tag of the body.
def addToBody (b : Builder) (tag : Tag) : Builder :=
  match b.body? with
  | some body =>
    if b.hasOpen "template" then b
    else { b with framesOk := false, tree := b.tree.addAttributes body tag.attributes }
  | none => b

-- Frames take the place of a body without contents.
def replaceBody (b : Builder) (tag : Tag) : Builder :=
  match b.framesOk, b.body? with
  | true, some body =>
    let b := { b with tree := b.tree.detach body, stack := b.stack.drop (b.stack.length - 1) }
    (b.openTag tag).goto .inFrameset
  | _, _ => b

-- Closes an item of a list before the next one.
def endItem (b : Builder) (names : List String) : Builder :=
  go b.stack
where
  go : List Nat → Builder
    | [] => b
    | node :: rest =>
      match b.element? node with
      | none => go rest
      | some e =>
        if e.isPage names then (b.closeImpliedBut e.name).popUntil [e.name]
        else if e.isSpecial && !e.isPage ["address", "div", "p"] then b
        else go rest

def openForm (b : Builder) (tag : Tag) : Builder :=
  let inTemplate := b.hasOpen "template"
  if b.form.isSome && !inTemplate then b
  else
    let (b, node) := b.endParagraph.insertOpen (elementOf tag)
    if inTemplate then b else { b with form := some node }

def closeForm (b : Builder) : Builder :=
  if b.hasOpen "template" then
    if b.inScope .default ["form"] then
      (b.closeImplied Element.optionalEnds).popUntil ["form"]
    else b
  else match b.form with
    | none => b
    | some node =>
      let b := { b with form := none }
      if b.inScopeIf .default (· == node) then
        (b.closeImplied Element.optionalEnds).removeOpen node
      else b

def endButton (b : Builder) : Builder :=
  if b.inScope .default ["button"] then
    (b.closeImplied Element.optionalEnds).popUntil ["button"]
  else b

def isHidden (tag : Tag) : Bool :=
  match tag.attribute? "type" with
  | some type => type.map Char.toLower == "hidden"
  | none => false

def openSelect (b : Builder) (tag : Tag) : Builder :=
  let b := (b.reopen.openTag tag).noFrames
  b.goto (if [Mode.inTable, .inCaption, .inTableBody, .inRow, .inCell].contains b.mode
    then .inSelectInTable else .inSelect)

def popIf (b : Builder) (name : String) : Builder :=
  if b.currentIs [name] then b.pop else b

def openForeign (b : Builder) (space : Space) (tag : Tag) : Builder :=
  let element := { elementOf tag with space }
  if tag.selfClosing then (b.insertClosed element).1 else (b.insertOpen element).1

def blocks : List String :=
  ["address", "article", "aside", "blockquote", "center", "details", "dialog", "dir", "div", "dl",
   "fieldset", "figcaption", "figure", "footer", "header", "hgroup", "main", "menu", "nav", "ol",
   "search", "section", "summary", "ul"]

def formattings : List String :=
  ["b", "big", "code", "em", "font", "i", "s", "small", "strike", "strong", "tt", "u"]

def misplaced : List String :=
  ["caption", "col", "colgroup", "frame", "head", "tbody", "td", "tfoot", "th", "thead", "tr"]

def bodyOpen (b : Builder) (tag : Tag) : Builder :=
  let name := tag.name
  if name = "html" then b.addToRoot tag
  else if headTags.contains name then b.headTag tag
  else if name = "body" then b.addToBody tag
  else if name = "frameset" then b.replaceBody tag
  else if name = "p" || blocks.contains name then b.endParagraph.openTag tag
  else if Element.headings.contains name then
    let b := b.endParagraph
    (if b.currentIs Element.headings then b.pop else b).openTag tag
  else if name = "pre" || name = "listing" then
    { b.endParagraph.openTag tag with skipBreak := true, framesOk := false }
  else if name = "form" then b.openForm tag
  else if name = "li" then ((b.noFrames.endItem ["li"]).endParagraph).openTag tag
  else if name = "dd" || name = "dt" then
    ((b.noFrames.endItem ["dd", "dt"]).endParagraph).openTag tag
  else if name = "plaintext" then { b.endParagraph.openTag tag with plain := true }
  else if name = "button" then (b.endButton.reopen.openTag tag).noFrames
  else if name = "a" then b.endLink.reopen.openFormatting tag
  else if formattings.contains name then b.reopen.openFormatting tag
  else if name = "nobr" then
    let b := b.reopen
    (if b.inScope .default ["nobr"] then (b.closeFormatting "nobr").reopen else b).openFormatting
      tag
  else if ["applet", "marquee", "object"].contains name then
    (b.reopen.openTag tag).addBorder.noFrames
  else if name = "table" then
    ((if b.old then b else b.endParagraph).openTag tag).noFrames.goto .inTable
  else if ["area", "br", "embed", "img", "keygen", "wbr"].contains name then
    (b.reopen.addTag tag).noFrames
  else if name = "input" then
    let b := b.reopen.addTag tag
    if isHidden tag then b else b.noFrames
  else if ["param", "source", "track"].contains name then b.addTag tag
  else if name = "hr" then (b.endParagraph.addTag tag).noFrames
  else if name = "image" then (b.reopen.addTag { tag with name := "img" }).noFrames
  else if name = "textarea" then { b.openRaw tag with skipBreak := true, framesOk := false }
  else if name = "xmp" then b.endParagraph.reopen.noFrames.openRaw tag
  else if name = "iframe" then b.noFrames.openRaw tag
  else if name = "noembed" || name = "noscript" then b.openRaw tag
  else if name = "select" then b.openSelect tag
  else if name = "optgroup" || name = "option" then (b.popIf "option").reopen.openTag tag
  else if name = "rb" || name = "rtc" then
    (if b.inScope .default ["ruby"] then b.closeImplied Element.optionalEnds else b).openTag tag
  else if name = "rp" || name = "rt" then
    (if b.inScope .default ["ruby"] then b.closeImpliedBut "rtc" else b).openTag tag
  else if name = "math" then b.openForeign .formula tag
  else if name = "svg" then b.openForeign .drawing tag
  else if misplaced.contains name then b
  else b.reopen.openTag tag

def closeBlock (b : Builder) (name : String) : Builder :=
  if b.inScope .default [name] then (b.closeImplied Element.optionalEnds).popUntil [name] else b

def bodyClose (b : Builder) (name : String) : Step :=
  if name = "template" then done b.closeTemplate
  else if name = "body" then
    done (if b.inScope .default ["body"] then b.goto .afterBody else b)
  else if name = "html" then
    if b.inScope .default ["body"] then .goto b .afterBody else done b
  else if blocks.contains name || ["button", "listing", "pre"].contains name then
    done (b.closeBlock name)
  else if name = "form" then done b.closeForm
  else if name = "p" then
    done (if b.inScope .button ["p"] then b.closeParagraph else (b.openName "p").closeParagraph)
  else if name = "li" then
    done (if b.inScope .list ["li"] then (b.closeImpliedBut "li").popUntil ["li"] else b)
  else if name = "dd" || name = "dt" then
    done (if b.inScope .default [name] then (b.closeImpliedBut name).popUntil [name] else b)
  else if Element.headings.contains name then
    done (if b.inScope .default Element.headings then
      (b.closeImplied Element.optionalEnds).popUntil Element.headings else b)
  else if name = "a" || name = "nobr" || formattings.contains name then
    done (b.closeFormatting name)
  else if ["applet", "marquee", "object"].contains name then
    done (if b.inScope .default [name] then (b.closeBlock name).clearToBorder else b)
  else if name = "br" then done ((b.reopen.addTag { name := "br" }).noFrames)
  else done (b.closeInBody name)

def inBody (b : Builder) (token : Token) : Step :=
  match token with
  | .char c => done (b.bodyChar c)
  | .openTag tag => done (b.bodyOpen tag)
  | .closeTag name => b.bodyClose name
  | .finish => if b.templates.isEmpty then done b else b.finishTemplate
  | _ => done b

-- The text of an element in which no tags count; only its end matters.
def inText (b : Builder) (token : Token) : Step :=
  match token with
  | .finish => .goto b.pop b.suspended
  | .closeTag _ => done (b.pop.goto b.suspended)
  | _ => done b

-- Does what the body would do, but puts new elements before the table.
def foster (b : Builder) (token : Token) : Step :=
  match { b with fostering := true }.inBody token with
  | done b => done { b with fostering := false }
  | again b => again { b with fostering := false }

def rowParts : List String :=
  ["td", "th", "tr"]

def tableOpen (b : Builder) (token : Token) (tag : Tag) : Step :=
  let inner := b.popTo ["html", "table", "template"]
  let name := tag.name
  if name = "caption" then done ((inner.addBorder.openTag tag).goto .inCaption)
  else if name = "colgroup" then done ((inner.openTag tag).goto .inColumnGroup)
  else if name = "col" then .goto (inner.openName "colgroup") .inColumnGroup
  else if ["tbody", "tfoot", "thead"].contains name then
    done ((inner.openTag tag).goto .inTableBody)
  else if rowParts.contains name then .goto (inner.openName "tbody") .inTableBody
  else if name = "table" then
    if b.inScope .table ["table"] then again (b.popUntil ["table"]).fit else done b
  else if ["style", "script", "template"].contains name then done (b.headTag tag)
  else if name = "input" && isHidden tag then done (b.addTag tag)
  else if name = "form" then
    if b.hasOpen "template" || b.form.isSome then done b
    else
      let (b, node) := b.insertClosed (elementOf tag)
      done { b with form := some node }
  else b.foster token

def tableClose (b : Builder) (token : Token) (name : String) : Step :=
  if name = "table" then
    done (if b.inScope .table ["table"] then (b.popUntil ["table"]).fit else b)
  else if ["body", "caption", "col", "colgroup", "html", "tbody", "td", "tfoot", "th", "thead",
      "tr"].contains name then done b
  else if name = "template" then done b.closeTemplate
  else b.foster token

def inTable (b : Builder) (token : Token) : Step :=
  match token with
  | .openTag tag => b.tableOpen token tag
  | .closeTag name => b.tableClose token name
  | .finish => b.inBody token
  | _ =>
    if b.currentIs Element.tableParts then
      again { b with suspended := b.mode, mode := .inTableText, pending := .none }
    else b.foster token

-- Text in a table goes before it, unless it is all blank.
def inTableText (b : Builder) (token : Token) : Step :=
  match token with
  | .nul => done b
  | .char c =>
    done { b with pending := if isSpace c && b.pending != .other then .spaces else .other }
  | _ =>
    let b := if b.pending = .other then (b.foster (.char 'x')).builder else b
    again { b with mode := b.suspended, pending := .none }

def inCaption (b : Builder) (token : Token) : Step :=
  let closed := ((b.closeImplied Element.optionalEnds).popUntil ["caption"]).clearToBorder
  let isOpen := b.inScope .table ["caption"]
  match token with
  | .openTag tag =>
    if ["caption", "col", "colgroup", "tbody", "td", "tfoot", "th", "thead", "tr"].contains tag.name
    then if isOpen then .goto closed .inTable else done b
    else b.inBody token
  | .closeTag name =>
    if name = "caption" then done (if isOpen then closed.goto .inTable else b)
    else if name = "table" then if isOpen then .goto closed .inTable else done b
    else if ["body", "col", "colgroup", "html", "tbody", "td", "tfoot", "th", "thead",
        "tr"].contains name then done b
    else b.inBody token
  | _ => b.inBody token

def inColumnGroup (b : Builder) (token : Token) : Step :=
  let implied : Step := if b.currentIs ["colgroup"] then .goto b.pop .inTable else done b
  if isSpaceToken token then done b
  else match token with
    | .openTag tag =>
      if tag.name = "html" then done (b.addToRoot tag)
      else if tag.name = "col" then done (b.addTag tag)
      else if tag.name = "template" then done (b.openTemplate tag)
      else implied
    | .closeTag name =>
      if name = "colgroup" then
        done (if b.currentIs ["colgroup"] then b.pop.goto .inTable else b)
      else if name = "col" then done b
      else if name = "template" then done b.closeTemplate
      else implied
    | .finish => b.inBody token
    | _ => implied

def inTableBody (b : Builder) (token : Token) : Step :=
  let inner := b.popTo ["tbody", "tfoot", "thead", "template", "html"]
  let leave : Step :=
    if b.inScope .table ["table", "tbody", "tfoot"] then .goto inner.pop .inTable else done b
  match token with
  | .openTag tag =>
    if tag.name = "tr" then done ((inner.openTag tag).goto .inRow)
    else if tag.name = "th" || tag.name = "td" then .goto (inner.openName "tr") .inRow
    else if ["caption", "col", "colgroup", "tbody", "tfoot", "thead"].contains tag.name then leave
    else b.inTable token
  | .closeTag name =>
    if ["tbody", "tfoot", "thead"].contains name then
      done (if b.inScope .table [name] then inner.pop.goto .inTable else b)
    else if name = "table" then leave
    else if ["body", "caption", "col", "colgroup", "html", "td", "th", "tr"].contains name then
      done b
    else b.inTable token
  | _ => b.inTable token

def inRow (b : Builder) (token : Token) : Step :=
  let inner := b.popTo ["tr", "template", "html"]
  let leave : Step :=
    if b.inScope .table ["tr"] then .goto inner.pop .inTableBody else done b
  match token with
  | .openTag tag =>
    if tag.name = "th" || tag.name = "td" then
      done ((inner.openTag tag).addBorder.goto .inCell)
    else if ["caption", "col", "colgroup", "tbody", "tfoot", "thead", "tr"].contains tag.name then
      leave
    else b.inTable token
  | .closeTag name =>
    if name = "tr" then
      done (if b.inScope .table ["tr"] then inner.pop.goto .inTableBody else b)
    else if name = "table" then leave
    else if ["tbody", "tfoot", "thead"].contains name then
      if b.inScope .table [name] then leave else done b
    else if ["body", "caption", "col", "colgroup", "html", "td", "th"].contains name then done b
    else b.inTable token
  | _ => b.inTable token

def closeCell (b : Builder) : Builder :=
  ((b.closeImplied Element.optionalEnds).popUntil ["td", "th"]).clearToBorder

def inCell (b : Builder) (token : Token) : Step :=
  match token with
  | .openTag tag =>
    if ["caption", "col", "colgroup", "tbody", "td", "tfoot", "th", "thead", "tr"].contains tag.name
    then if b.inScope .table ["td", "th"] then .goto b.closeCell .inRow else done b
    else b.inBody token
  | .closeTag name =>
    if name = "td" || name = "th" then
      done (if b.inScope .table [name] then
        (((b.closeImplied Element.optionalEnds).popUntil [name]).clearToBorder).goto .inRow
      else b)
    else if ["body", "caption", "col", "colgroup", "html"].contains name then done b
    else if ["table", "tbody", "tfoot", "thead", "tr"].contains name then
      if b.inScope .table [name] then .goto b.closeCell .inRow else done b
    else b.inBody token
  | _ => b.inBody token

def closeGroup (b : Builder) : Builder :=
  let b := match b.stack with
    | inner :: outer :: _ =>
      if b.isNamed ["option"] inner && b.isNamed ["optgroup"] outer then b.pop else b
    | _ => b
  b.popIf "optgroup"

def closeSelect (b : Builder) : Builder :=
  (b.popUntil ["select"]).fit

def inSelect (b : Builder) (token : Token) : Step :=
  match token with
  | .openTag tag =>
    if tag.name = "html" then done (b.addToRoot tag)
    else if tag.name = "option" then done ((b.popIf "option").openTag tag)
    else if tag.name = "optgroup" then
      done (((b.popIf "option").popIf "optgroup").openTag tag)
    else if tag.name = "select" then
      done (if b.inScope .select ["select"] then b.closeSelect else b)
    else if ["input", "keygen", "textarea"].contains tag.name then
      if b.inScope .select ["select"] then again b.closeSelect else done b
    else if tag.name = "script" || tag.name = "template" then done (b.headTag tag)
    else done b
  | .closeTag name =>
    if name = "optgroup" then done b.closeGroup
    else if name = "option" then done (b.popIf "option")
    else if name = "select" then
      done (if b.inScope .select ["select"] then b.closeSelect else b)
    else if name = "template" then done b.closeTemplate
    else done b
  | .finish => b.inBody token
  | _ => done b

def inSelectInTable (b : Builder) (token : Token) : Step :=
  let names := ["caption", "table", "tbody", "tfoot", "thead", "tr", "td", "th"]
  match token with
  | .openTag tag => if names.contains tag.name then again b.closeSelect else b.inSelect token
  | .closeTag name =>
    if names.contains name then
      if b.inScope .table [name] then again b.closeSelect else done b
    else b.inSelect token
  | _ => b.inSelect token

-- What is in a template decides which rules hold for it.
def becomes (b : Builder) (mode : Mode) : Step :=
  again { b with templates := mode :: b.templates.tail, mode }

def inTemplate (b : Builder) (token : Token) : Step :=
  match token with
  | .char _ => b.inBody token
  | .openTag tag =>
    if headTags.contains tag.name then done (b.headTag tag)
    else if ["caption", "colgroup", "tbody", "tfoot", "thead"].contains tag.name then
      b.becomes .inTable
    else if tag.name = "col" then b.becomes .inColumnGroup
    else if tag.name = "tr" then b.becomes .inTableBody
    else if tag.name = "td" || tag.name = "th" then b.becomes .inRow
    else b.becomes .inBody
  | .closeTag name => done (if name = "template" then b.closeTemplate else b)
  | .finish => b.finishTemplate
  | _ => done b

-- After the body, or after the root too; anything but blanks goes back into the body.
def afterBody (next : Mode) (b : Builder) (token : Token) : Step :=
  if isSpaceToken token then b.inBody token
  else match token with
    | .openTag tag => if tag.name = "html" then done (b.addToRoot tag) else .goto b .inBody
    | .closeTag name =>
      if name = "html" && next != .inBody then done (b.goto next) else .goto b .inBody
    | .finish => done b
    | _ => .goto b .inBody

def inFrameset (b : Builder) (token : Token) : Step :=
  match token with
  | .openTag tag =>
    if tag.name = "html" then done (b.addToRoot tag)
    else if tag.name = "frameset" then done (b.openTag tag)
    else if tag.name = "frame" then done (b.addTag tag)
    else if tag.name = "noframes" then done (b.openRaw tag)
    else done b
  | .closeTag name =>
    if name = "frameset" && 1 < b.stack.length then
      let b := b.pop
      done (if b.currentIs ["frameset"] then b else b.goto .afterFrameset)
    else done b
  | _ => done b

def afterFrameset (next : Option Mode) (b : Builder) (token : Token) : Step :=
  match token with
  | .openTag tag =>
    if tag.name = "html" then done (b.addToRoot tag)
    else if tag.name = "noframes" then done (b.openRaw tag)
    else done b
  | .closeTag name =>
    match next with
    | some mode => done (if name = "html" then b.goto mode else b)
    | none => done b
  | _ => done b

def byMode (b : Builder) (token : Token) : Step :=
  match b.mode with
  | .initial => b.initial token
  | .beforeHtml => b.beforeHtml token
  | .beforeHead => b.beforeHead token
  | .inHead => b.inHead token
  | .afterHead => b.afterHead token
  | .inBody => b.inBody token
  | .text => b.inText token
  | .inTable => b.inTable token
  | .inTableText => b.inTableText token
  | .inCaption => b.inCaption token
  | .inColumnGroup => b.inColumnGroup token
  | .inTableBody => b.inTableBody token
  | .inRow => b.inRow token
  | .inCell => b.inCell token
  | .inSelect => b.inSelect token
  | .inSelectInTable => b.inSelectInTable token
  | .inTemplate => b.inTemplate token
  | .afterBody => b.afterBody .afterAfterBody token
  | .inFrameset => b.inFrameset token
  | .afterFrameset => b.afterFrameset (some .afterAfterFrameset) token
  | .afterAfterBody => b.afterBody .inBody token
  | .afterAfterFrameset => b.afterFrameset none token

end TextCharts.Html.Builder
