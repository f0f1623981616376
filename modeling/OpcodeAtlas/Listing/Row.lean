import OpcodeAtlas.Cell
import OpcodeAtlas.Variant

namespace OpcodeAtlas.Listing

/-- The mark of a cycle count that grows when a page boundary is crossed. -/
def pageCrossMark : Char := '*'

/-- How a cycle cell says that its count grows. -/
def cycleMode (cell : Text) : CycleMode :=
  if cell.contains pageCrossMark then .pageCrossPenalty else .fixed

/-- The base count of a cycle cell. A dash means that no count is known. -/
def cycles (cell : Text) (location? : Option Location) : Except Fault Int :=
  let count := Text.trim (cell.filter (· != pageCrossMark))
  if count = "-" then .ok 0 else Cell.number "cycle count" cell count location?

/-- The byte of an opcode cell, which begins with a dollar sign. -/
def opcode (cell : Text) (location? : Option Location) : Except Fault Int :=
  match cell with
  | '$' :: digits => Cell.byte cell digits location?
  | _ => .error ⟨.malformed "opcode" cell, location?⟩

/-- A row of an opcode table. Its columns are the mode, a sample that is not read, the opcode,
    the size and the cycles. -/
def readRow (line mnemonic : Text) (location? : Option Location) : Except Fault Variant :=
  match (line.splitOn '|').map Text.trim with
  | [modeCell, _, opcodeCell, sizeCell, cyclesCell] => do
    let opcode ← opcode opcodeCell location?
    let size ← Cell.count "byte count" sizeCell location?
    let cycles ← cycles cyclesCell location?
    let mode ← Cell.mode modeCell location?
    return {
      opcode, mnemonic, size, cycles, mode
      cycleMode := cycleMode cyclesCell
      official := false }
  | cells => .error ⟨.columnCount 5 cells.length line, location?⟩

end OpcodeAtlas.Listing
