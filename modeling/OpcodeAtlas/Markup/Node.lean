import OpcodeAtlas.Text.Basic

namespace OpcodeAtlas.Markup

/-- A piece of a page. -/
inductive Node where
  | text (content : Text)
  /-- A comment, a script or anything else that is no part of what the page says. -/
  | aside (content : Text)
  | element (tag : Text) (attributes : List (Text × Text)) (children : List Node)

/-- How the source of a page is read. Nothing is taken for granted of it, since readers differ in what
    they make of misplaced tags. -/
abbrev Reader := Text → List Node

/-- An element where it starts in the page, with the tag of the element around it. -/
structure Start where
  parent? : Option Text
  tag : Text
  attributes : List (Text × Text)
  children : List Node

mutual

/-- The text of a node, from all depths, in the order of the page. -/
def Node.innerText : Node → Text
  | .text content => content
  | .aside _ => []
  | .element _ _ children => innerTexts children

def innerTexts : List Node → Text
  | [] => []
  | node :: rest => node.innerText ++ innerTexts rest

end

mutual

/-- The elements of a node in the order of their start tags, at all depths. -/
def Node.starts (parent? : Option Text) : Node → List Start
  | .text _ => []
  | .aside _ => []
  | .element tag attributes children =>
    ⟨parent?, tag, attributes, children⟩ :: starts (some tag) children

def starts (parent? : Option Text) : List Node → List Start
  | [] => []
  | node :: rest => node.starts parent? ++ starts parent? rest

end

namespace Start

def innerText (start : Start) : Text :=
  innerTexts start.children

/-- The elements of a tag inside this one, at all depths. -/
def descendants (tag : Text) (start : Start) : List Start :=
  (starts (some start.tag) start.children).filter (·.tag = tag)

def attribute? (name : Text) (start : Start) : Option Text :=
  start.attributes.lookup name

end Start

end OpcodeAtlas.Markup
