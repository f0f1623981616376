import OpcodeAtlas.Cell
import OpcodeAtlas.Markup.Node
import OpcodeAtlas.Text.Case
import OpcodeAtlas.Variant

namespace OpcodeAtlas.Reference

open Markup (Start)

/-- The text of a cell on one line. -/
def cellText (cell : Start) : Text :=
  Text.collapse cell.innerText

/-- The byte of an opcode cell, whatever number of dollar signs is in front of it. -/
def opcode (cell : Text) (location? : Option Location) : Except Fault Int :=
  Cell.byte cell ((Text.trim cell).dropWhile (· == '$')) location?

/-- The base count of a cycle cell and the note behind it. -/
def countAndNote (cell : Text) : Text × Text :=
  let (base, note) := cell.cutAt ' '
  (base, Text.trim note)

/-- The phrases that tell how a cycle count grows. The first one that a note contains decides. -/
def notePhrases : List (Text × CycleMode) :=
  [("page crossed", .pageCrossPenalty), ("branch succeeds", .branchTakenPenalty)]

/-- How a note says that the count grows. A count without a note is fixed. -/
def cycleMode (note : Text) (location? : Option Location) : Except Fault CycleMode :=
  let words := Text.toLower (Text.collapse note)
  if words.isEmpty then .ok .fixed
  else match notePhrases.find? fun phrase => phrase.1.occursIn words with
    | some phrase => .ok phrase.2
    | none => .error ⟨.unknownCycleNote note, location?⟩

/-- A row of a status table: a flag, its name, which is not kept, and the effect on it. -/
def readStatusRow (row : Start) (location : Location) : Except Fault (Text × Text) :=
  match row.descendants "td" with
  | flag :: _ :: effect :: _ => .ok (cellText flag, cellText effect)
  | cells => .error ⟨.fewCells .status cells.length, location⟩

/-- A row of a variant table. Its columns are the mode, the opcode, the size and the cycles. -/
def readVariantRow (row : Start) (mnemonic : Text) (location : Location) : Except Fault Variant :=
  match row.descendants "td" with
  | modeCell :: opcodeCell :: sizeCell :: cyclesCell :: _ => do
    let mode ← Cell.mode modeCell.innerText location
    let opcode ← opcode (cellText opcodeCell) location
    let size ← Cell.count "byte count" (cellText sizeCell) location
    let (base, note) := countAndNote (cellText cyclesCell)
    let cycles ← Cell.count "cycle count" base location
    let cycleMode ← cycleMode note location
    return { opcode, mnemonic, size, cycles, cycleMode, mode, cycleNote := note }
  | cells => .error ⟨.fewCells .variant cells.length, location⟩

end OpcodeAtlas.Reference
