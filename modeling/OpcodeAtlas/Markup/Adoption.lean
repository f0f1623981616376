import OpcodeAtlas.Markup.OpenElements

namespace OpcodeAtlas.Markup

/-! An end tag of a formatting element may come while blocks that started inside the element are
    open. The element is then split: one copy ends before the block, another holds what the block
    holds. -/

namespace OpenElements

/-- The copies of the formatting elements between the one that ends and the block, nearest to the
    block first. One without further effect gets no copy, and of many only three do. -/
def copyBetween : Nat → List Frame → OpenElements → OpenElements × List Frame
  | _, [], state => (state, [])
  | copies, frame :: rest, state =>
    let known := state.formatting.any (·.serial? = some frame.serial)
    if copies < 3 && known then
      let serial := state.nextSerial
      let copy := { frame with serial, fostered := false, children := [] }
      let formatting := state.formatting.map fun entry =>
        if entry.serial? = some frame.serial then .element serial frame.tag frame.attributes
        else entry
      let (state, copied) :=
        copyBetween (copies + 1) rest { state with formatting, nextSerial := serial + 1 }
      (state, copy :: copied)
    else copyBetween (copies + 1) rest (state.forget frame.serial)

/-- The entry in the place of an old one, or right behind the nearest copy where there is one. -/
def moveFormatting (old : Nat) (entry : Formatting) (nearest? : Option Nat)
    (formatting : List Formatting) : List Formatting :=
  match nearest? with
  | none => formatting.map fun other => if other.serial? = some old then entry else other
  | some nearest =>
    (formatting.filter (·.serial? != some old)).flatMap fun other =>
      if other.serial? = some nearest then [entry, other] else [other]

/-- The frames with the outermost one put where it can stand. -/
def settleOutermost (fostered : Bool) : List Frame → List Frame
  | [] => []
  | [frame] => [{ frame with fostered }]
  | frame :: rest => frame :: settleOutermost fostered rest

/-- Splits the formatting element around a block that is open inside it. -/
def splitAround (state : OpenElements) (target : Frame) (block : Frame) : OpenElements :=
  let inside := state.frames.takeWhile (·.serial != block.serial)
  let outside := (state.frames.dropWhile (·.serial != block.serial)).drop 1
  let between := outside.takeWhile (·.serial != target.serial)
  let state := popMany (between.length + 1) { state with frames := outside }
  let (state, copies) := copyBetween 0 between state
  let serial := state.nextSerial
  let renewed : Frame := { target with serial, fostered := false, children := block.children }
  let entry : Formatting := .element serial target.tag target.attributes
  let moved := { block with children := [] } :: copies
  { state with
    frames := inside ++ renewed :: settleOutermost state.fosters moved ++ state.frames
    formatting :=
      moveFormatting target.serial entry (copies.head?.map (·.serial)) state.formatting
    nextSerial := serial + 1 }

/-- Ends the latest formatting element of a tag, splitting it as often as blocks are open inside
    it, but not more than the given number of times. -/
def endFormattingWithin (tag : Text) : Nat → OpenElements → OpenElements
  | 0, state => state
  | rounds + 1, state =>
    let live? := state.liveFormatting.findSome? fun entry =>
      match entry with
      | .element serial otherTag _ => if otherTag = tag then some serial else none
      | .marker => none
    match live? with
    | none => state.closeOther tag
    | some serial =>
      match state.frames.find? fun frame => frame.serial = serial && !frame.ended with
      | none => state.forget serial
      | some target =>
        if !state.reaches Tags.scope (·.serial = serial) then state
        else
          let inside := state.frames.takeWhile (·.serial != serial)
          match (inside.filter (·.isOneOf Tags.special)).getLast? with
          | none => (state.popThrough (·.serial = serial)).forget serial
          | some block => endFormattingWithin tag rounds (state.splitAround target block)

/-- Ends the latest formatting element of a tag. -/
def endFormatting (state : OpenElements) (tag : Text) : OpenElements :=
  let plain := state.frames.head?.any fun frame =>
    frame.isOneOf [tag] && !state.formatting.any (·.serial? = some frame.serial)
  if plain then state.pop else endFormattingWithin tag 8 state

end OpenElements

end OpcodeAtlas.Markup
