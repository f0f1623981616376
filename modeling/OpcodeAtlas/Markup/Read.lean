import OpcodeAtlas.Markup.Adoption
import OpcodeAtlas.Markup.Token

namespace OpcodeAtlas.Markup

/-! The reader of pages that the program is run with. Every source gives a page: what is misplaced is
    moved, ended or left out by rules that depend on the elements that are open. The elements around
    the content of a page are not kept, and neither are the finer rules for scripts, choices,
    templates and drawings. -/

/-- Which part of a table the reading is in, if any. -/
inductive Context where
  | body
  | table
  | caption
  | columns
  | rowGroup
  | row
  | cell
deriving DecidableEq

/-- What a rule makes of a token: it is dealt with, or what remains of it comes again under the
    rules of the elements that are then open. -/
inductive Step where
  | done (state : OpenElements)
  | again (token : Token) (state : OpenElements)

namespace OpenElements

def context (state : OpenElements) : Context :=
  let part? (frame : Frame) : Option Context :=
    if frame.isOneOf Tags.cell then some .cell
    else if frame.isOneOf Tags.rowGroup then some .rowGroup
    else if frame.isOneOf ["tr"] then some .row
    else if frame.isOneOf ["caption"] then some .caption
    else if frame.isOneOf ["colgroup"] then some .columns
    else if frame.isOneOf ["table"] then some .table
    else none
  (state.frames.findSome? part?).getD .body

def textNode (state : OpenElements) (content : Text) : Node :=
  if state.isInside Tags.aside then .aside content else .text content

def leafNode (tag : Text) (attributes : List (Text × Text)) (content : Text) : Node :=
  .element tag attributes
    [if Tags.aside.contains tag then .aside content else .text content]

/-- Ends a list item, unless it lies outside of an element with rules of its own. -/
def closeItem (state : OpenElements) (tags : List Text) : OpenElements :=
  let passed : List Text := ["address", "div", "p"]
  let stops (frame : Frame) : Bool :=
    frame.isOneOf tags || frame.isOneOf Tags.special && !frame.isOneOf passed
  match state.frames.find? stops with
  | some frame =>
    if frame.isOneOf tags then (state.popImplied frame.tag).popThroughTags [frame.tag]
    else state
  | none => state

/-- Ends an element by its own end tag, with all that may be left open inside it. -/
def closeReached (state : OpenElements) (limits tags : List Text) (kept : Text := []) :
    OpenElements :=
  if state.reachesTags limits tags then (state.popImplied kept).popThroughTags tags else state

def startVoid (state : OpenElements) (tag : Text) (attributes : List (Text × Text)) :
    OpenElements :=
  state.resumeFormatting.insert (.element tag attributes [])

/-- A start tag outside of the frames of tables. -/
def startInBody (state : OpenElements) (tag : Text) (attributes : List (Text × Text)) :
    OpenElements :=
  if Tags.pageFrame.contains tag || Tags.tablePart.contains tag then state
  else if Tags.metadata.contains tag then state.insert (.element tag attributes [])
  else if tag = "hr" then state.closeParagraph.insert (.element tag attributes [])
  else if tag = "image" then state.startVoid "img" attributes
  else if Tags.void.contains tag then state.startVoid tag attributes
  else if Tags.block.contains tag || tag = "p" || tag = "table" then
    state.closeParagraph.openElement tag attributes
  else if Tags.heading.contains tag then
    let state := state.closeParagraph
    (if state.isIn Tags.heading then state.pop else state).openElement tag attributes
  else if tag = "form" then
    if state.isInside ["form"] then state else state.closeParagraph.openElement tag attributes
  else if tag = "li" then (state.closeItem ["li"]).closeParagraph.openElement tag attributes
  else if tag = "dd" || tag = "dt" then
    (state.closeItem ["dd", "dt"]).closeParagraph.openElement tag attributes
  else if tag = "button" then
    (state.closeReached Tags.scope ["button"]).resumeFormatting.openElement tag attributes
  else if tag = "a" then
    let earlier? := state.liveFormatting.findSome? fun entry =>
      match entry with
      | .element serial earlier _ => if earlier = tag then some serial else none
      | .marker => none
    let state := match earlier? with
      | some serial => ((state.endFormatting "a").forget serial).detach serial |>.settle
      | none => state
    state.resumeFormatting.openFormatting tag attributes
  else if tag = "nobr" then
    let state := state.resumeFormatting
    let state :=
      if state.reachesTags Tags.scope ["nobr"] then (state.endFormatting "nobr").resumeFormatting
      else state
    state.openFormatting tag attributes
  else if Tags.formatting.contains tag then state.resumeFormatting.openFormatting tag attributes
  else if Tags.enclosing.contains tag then
    (state.resumeFormatting.openElement tag attributes).addMarker
  else if tag = "option" || tag = "optgroup" then
    (if state.isIn ["option"] then state.pop else state).resumeFormatting.openElement tag attributes
  else if tag = "rb" || tag = "rtc" then
    (if state.reachesTags Tags.scope ["ruby"] then state.popImplied else state).openElement
      tag attributes
  else if tag = "rp" || tag = "rt" then
    (if state.reachesTags Tags.scope ["ruby"] then state.popImplied "rtc" else state).openElement
      tag attributes
  else state.resumeFormatting.openElement tag attributes

/-- An end tag outside of the frames of tables. -/
def endInBody (state : OpenElements) (tag : Text) : OpenElements :=
  if Tags.pageFrame.contains tag then state
  else if Tags.block.contains tag || tag = "button" then state.closeReached Tags.scope [tag]
  else if tag = "form" then
    if state.reachesTags Tags.scope ["form"] then
      let state := state.popImplied
      match state.frames.find? (·.isOneOf ["form"]) with
      | some frame => state.detach frame.serial
      | none => state
    else state
  else if tag = "p" then
    if state.reachesTags Tags.buttonScope ["p"] then state.closeParagraph
    else state.insert (.element "p" [] [])
  else if tag = "li" then state.closeReached Tags.listScope ["li"] "li"
  else if tag = "dd" || tag = "dt" then state.closeReached Tags.scope [tag] tag
  else if Tags.heading.contains tag then state.closeReached Tags.scope Tags.heading
  else if Tags.formatting.contains tag then state.endFormatting tag
  else if Tags.enclosing.contains tag then
    if state.reachesTags Tags.scope [tag] then (state.closeReached Tags.scope [tag]).clearToMarker
    else state
  else if tag = "br" then state.startVoid "br" []
  else state.closeOther tag

/-- An element without tags inside it, outside of the frames of tables. -/
def leafInBody (state : OpenElements) (tag : Text) (attributes : List (Text × Text))
    (content : Text) : OpenElements :=
  let state :=
    if tag = "xmp" then state.closeParagraph.resumeFormatting
    else if tag = "plaintext" then state.closeParagraph
    else state
  state.insert (leafNode tag attributes content)

def inBody (state : OpenElements) (token : Token) : Step :=
  .done <| match token with
  | .text content =>
    let state := state.resumeFormatting
    state.insert (state.textNode content)
  | .comment content => state.place (.aside content)
  | .startTag tag attributes => state.startInBody tag attributes
  | .endTag tag => state.endInBody tag
  | .leaf tag attributes content => state.leafInBody tag attributes content

/-- Ends what is open inside a table or a part of it. -/
def clearTo (state : OpenElements) (tags : List Text) : OpenElements :=
  state.popUntil (·.isOneOf tags)

def inTable (state : OpenElements) (token : Token) : Step :=
  match token with
  | .text content =>
    if state.fosters && content.all isTagBlank then .done (state.place (state.textNode content))
    else state.inBody token
  | .startTag tag attributes =>
    let cleared := state.clearTo ["table"]
    if tag = "caption" then .done (cleared.addMarker.openPart tag attributes)
    else if tag = "colgroup" || Tags.rowGroup.contains tag then
      .done (cleared.openPart tag attributes)
    else if tag = "col" then .again token (cleared.openPart "colgroup")
    else if tag = "tr" || Tags.cell.contains tag then .again token (cleared.openPart "tbody")
    else if tag = "table" then .again token (state.popThroughTags ["table"])
    else if tag = "form" then
      if state.isInside ["form"] then .done state
      else .done (state.place (.element tag attributes []))
    else state.inBody token
  | .endTag tag =>
    if tag = "table" then .done (state.popThroughTags ["table"])
    else if Tags.tablePart.contains tag then .done state
    else state.inBody token
  | .leaf tag attributes content =>
    if tag = "script" || tag = "style" then
      .done (state.place (leafNode tag attributes content))
    else state.inBody token
  | .comment _ => state.inBody token

def inCaption (state : OpenElements) (token : Token) : Step :=
  let ended := (state.closeReached Tags.tableScope ["caption"]).clearToMarker
  match token with
  | .startTag tag _ =>
    if Tags.tablePart.contains tag then .again token ended else state.inBody token
  | .endTag tag =>
    if tag = "caption" then .done ended
    else if tag = "table" then .again token ended
    else if Tags.tablePart.contains tag then .done state
    else state.inBody token
  | _ => state.inBody token

def inColumns (state : OpenElements) (token : Token) : Step :=
  let leave (token : Token) : Step :=
    if state.isIn ["colgroup"] then .again token state.pop else .done state
  match token with
  | .text content =>
    let blank := content.takeWhile isTagBlank
    let state := state.place (state.textNode blank)
    if blank.length = content.length then .done state
    else if state.isIn ["colgroup"] then .again (.text (content.drop blank.length)) state.pop
    else .done state
  | .comment content => .done (state.place (.aside content))
  | .startTag tag attributes =>
    if tag = "col" then .done (state.place (.element tag attributes [])) else leave token
  | .endTag tag =>
    if tag = "colgroup" then .done (if state.isIn ["colgroup"] then state.pop else state)
    else if tag = "col" then .done state
    else leave token
  | .leaf .. => leave token

def inRowGroup (state : OpenElements) (token : Token) : Step :=
  let cleared := state.clearTo Tags.rowGroup
  match token with
  | .startTag tag attributes =>
    if tag = "tr" then .done (cleared.openPart tag attributes)
    else if Tags.cell.contains tag then .again token (cleared.openPart "tr")
    else if Tags.tablePart.contains tag then .again token cleared.pop
    else state.inTable token
  | .endTag tag =>
    if Tags.rowGroup.contains tag then
      if state.reachesTags Tags.tableScope [tag] then .done cleared.pop else .done state
    else if tag = "table" then .again token cleared.pop
    else state.inTable token
  | _ => state.inTable token

def inRow (state : OpenElements) (token : Token) : Step :=
  let cleared := state.clearTo ["tr"]
  match token with
  | .startTag tag attributes =>
    if Tags.cell.contains tag then .done (cleared.openPart tag attributes).addMarker
    else if Tags.tablePart.contains tag then .again token cleared.pop
    else state.inTable token
  | .endTag tag =>
    if tag = "tr" then .done cleared.pop
    else if tag = "table" then .again token cleared.pop
    else if Tags.rowGroup.contains tag then
      if state.reachesTags Tags.tableScope [tag] then .again token cleared.pop else .done state
    else state.inTable token
  | _ => state.inTable token

def inCell (state : OpenElements) (token : Token) : Step :=
  let ended := (state.popImplied.popThroughTags Tags.cell).clearToMarker
  match token with
  | .startTag tag _ =>
    if Tags.tablePart.contains tag then .again token ended else state.inBody token
  | .endTag tag =>
    if Tags.cell.contains tag then
      if state.reachesTags Tags.tableScope [tag] then
        .done (state.closeReached Tags.tableScope [tag]).clearToMarker
      else .done state
    else if tag = "table" || tag = "tr" || Tags.rowGroup.contains tag then
      if state.reachesTags Tags.tableScope [tag] then .again token ended else .done state
    else if Tags.tablePart.contains tag then .done state
    else state.inBody token
  | _ => state.inBody token

def step (state : OpenElements) (token : Token) : Step :=
  match state.context with
  | .body => state.inBody token
  | .table => state.inTable token
  | .caption => state.inCaption token
  | .columns => state.inColumns token
  | .rowGroup => state.inRowGroup token
  | .row => state.inRow token
  | .cell => state.inCell token

/-- Applies rules until one deals with the token. -/
def readWithin : Nat → OpenElements → Token → OpenElements
  | 0, state, _ => state
  | rounds + 1, state, token =>
    match state.settle.step token with
    | .done state => state
    | .again token state => readWithin rounds state token

/-- A token comes again only after an element ended, or after one of the two that a cell needs
    around it was started, so the rounds do not run out. -/
def read (state : OpenElements) (token : Token) : OpenElements :=
  readWithin (state.frames.length + 4) state token

/-- Ends all that is open at the end of the source. -/
def finish (state : OpenElements) : List Node :=
  (popMany state.frames.length state).page.reverse

end OpenElements

/-- The page that a source describes. -/
def readPage (source : Text) : List Node :=
  ((tokens source).foldl OpenElements.read {}).finish

end OpcodeAtlas.Markup
