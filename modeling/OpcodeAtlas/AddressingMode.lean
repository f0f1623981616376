import OpcodeAtlas.Text.Blank

namespace OpcodeAtlas

/-- How an instruction finds its operand. -/
inductive AddressingMode where
  | accumulator
  | immediate
  | zeroPage
  | zeroPageX
  | zeroPageY
  | absolute
  | absoluteX
  | absoluteY
  | indirect
  | indirectX
  | indirectY
  | relative
  | implied
deriving DecidableEq, Repr

namespace AddressingMode

def all : List AddressingMode :=
  [accumulator, immediate, zeroPage, zeroPageX, zeroPageY, absolute, absoluteX, absoluteY,
   indirect, indirectX, indirectY, relative, implied]

theorem mem_all (mode : AddressingMode) : mode ∈ all := by
  cases mode <;> decide

/-- The canonical name, as the emulator spells it. -/
def name : AddressingMode → Text
  | accumulator => "Accumulator"
  | immediate => "Immediate"
  | zeroPage => "ZeroPage"
  | zeroPageX => "ZeroPage_X"
  | zeroPageY => "ZeroPage_Y"
  | absolute => "Absolute"
  | absoluteX => "Absolute_X"
  | absoluteY => "Absolute_Y"
  | indirect => "Indirect"
  | indirectX => "Indirect_X"
  | indirectY => "Indirect_Y"
  | relative => "Relative"
  | implied => "Implied"

/-- Bytes of an instruction in this mode: the opcode and its operand. -/
def size : AddressingMode → Nat
  | accumulator | implied => 1
  | immediate | zeroPage | zeroPageX | zeroPageY | indirectX | indirectY | relative => 2
  | absolute | absoluteX | absoluteY | indirect => 3

/-- The mode with a canonical name. -/
def ofName? (text : Text) : Option AddressingMode :=
  all.find? (·.name = text)

/-- The form of a printed label in which it can be compared with a canonical name: no parentheses
    and no blanks, and an underscore for each comma. -/
def canonicalLabel (label : Text) : Text :=
  let bare := label.filter fun c => c != '(' && c != ')'
  Text.join ['_'] ((bare.splitOn ',').map Text.squeeze)

end AddressingMode

end OpcodeAtlas
