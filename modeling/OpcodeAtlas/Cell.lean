import OpcodeAtlas.CycleMode
import OpcodeAtlas.Fault

namespace OpcodeAtlas.Cell

/-- The addressing mode that a printed label names. -/
def mode (label : Text) (location? : Option Location) : Except Fault AddressingMode :=
  match AddressingMode.ofName? (AddressingMode.canonicalLabel label) with
  | some mode => .ok mode
  | none => .error ⟨.unknownMode label, location?⟩

/-- The byte that hexadecimal digits give. A fault cites the cell they come from. -/
def byte (cell digits : Text) (location? : Option Location) : Except Fault Int :=
  match Numeral.readInt? .hexadecimal digits with
  | none => .error ⟨.malformed "opcode" cell, location?⟩
  | some value =>
    if 0 ≤ value ∧ value ≤ 255 then .ok value
    else .error ⟨.opcodeBeyondByte cell, location?⟩

/-- The number that decimal digits give. A fault says what was counted and cites the cell. -/
def number (what cell digits : Text) (location? : Option Location) : Except Fault Int :=
  match Numeral.readInt? .decimal digits with
  | none => .error ⟨.malformed what cell, location?⟩
  | some value => .ok value

/-- A cell that holds a number and nothing else. -/
def count (what cell : Text) (location? : Option Location) : Except Fault Int :=
  number what cell (Text.trim cell) location?

end OpcodeAtlas.Cell
