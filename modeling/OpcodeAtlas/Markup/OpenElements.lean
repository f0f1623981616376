import OpcodeAtlas.Markup.Node
import OpcodeAtlas.Markup.Tags

namespace OpcodeAtlas.Markup

/-- An element that still takes in nodes. -/
structure Frame where
  /-- Tells apart elements of one tag. -/
  serial : Nat
  tag : Text
  attributes : List (Text × Text)
  /-- The element goes in front of the table that is open around it. -/
  fostered : Bool
  /-- The element has ended for all rules while elements inside it are open. -/
  ended : Bool := false
  /-- What the element holds so far, latest first. -/
  children : List Node := []

namespace Frame

/-- The rules know the element by one of the tags. -/
def isOneOf (tags : List Text) (frame : Frame) : Bool :=
  !frame.ended && tags.contains frame.tag

def close (frame : Frame) : Node :=
  .element frame.tag frame.attributes frame.children.reverse

def add (node : Node) (frame : Frame) : Frame :=
  { frame with children := node :: frame.children }

end Frame

/-- An entry in the list of formatting elements. -/
inductive Formatting where
  /-- Formatting from before is kept out of what follows. -/
  | marker
  | element (serial : Nat) (tag : Text) (attributes : List (Text × Text))
deriving DecidableEq

namespace Formatting

def serial? : Formatting → Option Nat
  | marker => none
  | element serial _ _ => some serial

end Formatting

/-- A page that is being read: the elements that are open, innermost first, and what is complete
    around them. -/
structure OpenElements where
  /-- The complete nodes outside of all open elements, latest first. -/
  page : List Node := []
  frames : List Frame := []
  /-- The formatting elements whose effect goes on, latest first. -/
  formatting : List Formatting := []
  nextSerial : Nat := 0

/-- The node at the end of the innermost frame, or of the page. -/
def addInside (node : Node) (page : List Node) : List Frame → List Node × List Frame
  | [] => (node :: page, [])
  | frame :: rest => (page, frame.add node :: rest)

/-- The node in front of the innermost table. -/
def addBeforeTable (node : Node) (page : List Node) : List Frame → List Node × List Frame
  | [] => (node :: page, [])
  | frame :: rest =>
    let (page, rest) :=
      if frame.isOneOf ["table"] then addInside node page rest else addBeforeTable node page rest
    (page, frame :: rest)

namespace OpenElements

variable (state : OpenElements)

/-- The innermost element has one of the tags. -/
def isIn (tags : List Text) : Bool :=
  state.frames.head?.any (·.isOneOf tags)

/-- An element of one of the tags is open. -/
def isInside (tags : List Text) : Bool :=
  state.frames.any (·.isOneOf tags)

/-- What is put in now goes in front of the table. -/
def fosters : Bool :=
  state.isIn Tags.tableFrame

def attach (fostered : Bool) (node : Node) : OpenElements :=
  let add := if fostered then addBeforeTable else addInside
  let (page, frames) := add node state.page state.frames
  { state with page, frames }

/-- Puts a node into the innermost element. -/
def place (node : Node) : OpenElements :=
  state.attach false node

/-- Puts a node where it can stand: not into the frame of a table. -/
def insert (node : Node) : OpenElements :=
  state.attach state.fosters node

def push (fostered : Bool) (tag : Text) (attributes : List (Text × Text)) : OpenElements :=
  { state with
    frames := { serial := state.nextSerial, tag, attributes, fostered } :: state.frames
    nextSerial := state.nextSerial + 1 }

/-- Starts an element inside the innermost one. -/
def openPart (tag : Text) (attributes : List (Text × Text) := []) : OpenElements :=
  state.push false tag attributes

/-- Starts an element where it can stand. -/
def openElement (tag : Text) (attributes : List (Text × Text) := []) : OpenElements :=
  state.push state.fosters tag attributes

/-- Ends the innermost element. -/
def pop : OpenElements :=
  match state.frames with
  | [] => state
  | frame :: rest => { state with frames := rest }.attach frame.fostered frame.close

def popMany : Nat → OpenElements → OpenElements
  | 0, state => state
  | count + 1, state => popMany count state.pop

/-- Ends elements until the innermost one is of the given kind, or none is left. -/
def popUntil (p : Frame → Bool) : OpenElements :=
  popMany (state.frames.takeWhile (!p ·)).length state

/-- Ends the innermost element of the given kind and all inside it. -/
def popThrough (p : Frame → Bool) : OpenElements :=
  (state.popUntil p).pop

def popThroughTags (tags : List Text) : OpenElements :=
  state.popThrough (·.isOneOf tags)

/-- Ends the innermost elements that have ended for all rules. -/
def settle : OpenElements :=
  popMany (state.frames.takeWhile (·.ended)).length state

/-- Ends the element for all rules and leaves open what is inside it. -/
def detach (serial : Nat) : OpenElements :=
  { state with
    frames := state.frames.map fun frame =>
      if frame.serial = serial then { frame with ended := true } else frame }

/-- Ends the innermost elements that may be left open, but for those of one tag. -/
def popImplied (kept : Text := []) : OpenElements :=
  let implied (frame : Frame) : Bool := frame.isOneOf Tags.impliedEnd && frame.tag != kept
  popMany (state.frames.takeWhile implied).length state

/-- An element of the given kind is open, and no limit lies between it and the end. -/
def reaches (limits : List Text) (p : Frame → Bool) : Bool :=
  (state.frames.find? fun frame => p frame || frame.isOneOf limits).any p

def reachesTags (limits tags : List Text) : Bool :=
  state.reaches limits (·.isOneOf tags)

def isOpen (serial : Nat) : Bool :=
  state.frames.any fun frame => frame.serial = serial && !frame.ended

def closeParagraph : OpenElements :=
  if state.reachesTags Tags.buttonScope ["p"] then
    (state.popImplied "p").popThroughTags ["p"]
  else state

/-- An end tag without rules of its own ends the innermost element of its tag, unless an element
    with rules of its own is open inside that. -/
def closeOther (tag : Text) : OpenElements :=
  match state.frames.find? (·.isOneOf (tag :: Tags.special)) with
  | none => state
  | some frame =>
    if frame.tag = tag then (state.popImplied tag).popThrough (·.serial = frame.serial) else state

/-- The formatting elements since the last marker. -/
def liveFormatting : List Formatting :=
  state.formatting.takeWhile (· != .marker)

def addMarker : OpenElements :=
  { state with formatting := .marker :: state.formatting }

def clearToMarker : OpenElements :=
  { state with formatting := (state.formatting.dropWhile (· != .marker)).drop 1 }

def forget (serial : Nat) : OpenElements :=
  { state with formatting := state.formatting.filter (·.serial? != some serial) }

/-- Starts a formatting element. Of four alike since the last marker, the earliest has no further
    effect. -/
def openFormatting (tag : Text) (attributes : List (Text × Text)) : OpenElements :=
  let alike := state.liveFormatting.filter fun entry =>
    match entry with
    | .element _ otherTag otherAttributes => otherTag = tag && otherAttributes = attributes
    | .marker => false
  let state := match (alike.drop 2).getLast?.bind Formatting.serial? with
    | some serial => state.forget serial
    | none => state
  let entry := .element state.nextSerial tag attributes
  { state.openElement tag attributes with formatting := entry :: state.formatting }

/-- Starts a formatting element again whose effect goes on. -/
def reopen (entry : Formatting) : OpenElements :=
  match entry with
  | .marker => state
  | .element serial tag attributes =>
    let renewed := .element state.nextSerial tag attributes
    { state.openElement tag attributes with
      formatting := state.formatting.map fun other =>
        if other.serial? = some serial then renewed else other }

/-- Starts all formatting elements again that were ended by an element around them. -/
def resumeFormatting : OpenElements :=
  let ended := state.liveFormatting.takeWhile fun entry =>
    match entry.serial? with
    | some serial => !state.isOpen serial
    | none => false
  ended.reverse.foldl reopen state

end OpenElements

end OpcodeAtlas.Markup
