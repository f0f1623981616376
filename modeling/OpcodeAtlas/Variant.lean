import OpcodeAtlas.AddressingMode
import OpcodeAtlas.CycleMode
import OpcodeAtlas.Text.Case
import OpcodeAtlas.Text.Numeral

namespace OpcodeAtlas

/-- One encoding of an instruction: a mnemonic in one addressing mode. -/
structure Variant where
  opcode : Int
  /-- The bare mnemonic, also of an undocumented instruction. -/
  mnemonic : Text
  /-- Length of the instruction in bytes. -/
  size : Int
  /-- Base count of cycles. -/
  cycles : Int
  cycleMode : CycleMode
  mode : AddressingMode
  official : Bool := true
  /-- What the reference prints behind the base count. -/
  cycleNote : Text := []
deriving DecidableEq, Repr

namespace Variant

/-- The sign in front of the name of an undocumented instruction. -/
def unofficialMark : Char := '*'

/-- The name in the emitted table, which tells official and undocumented instructions apart. -/
def name (variant : Variant) : Text :=
  if variant.official then variant.mnemonic else unofficialMark :: variant.mnemonic

/-- The method of the emulator that executes the instruction. -/
def handler (variant : Variant) : Text :=
  Text.toLower variant.mnemonic

/-- Origin, mnemonic and mode, as a collision report names a variant. -/
def describe (variant : Variant) : Text :=
  (if variant.official then "official" else "undocumented" : Text) ++ " " ++ variant.mnemonic ++
    " " ++ variant.mode.name

/-- Opcode, name and mode in one line for logs. -/
def summary (variant : Variant) : Text :=
  "OpcodeVariant(" ++ Numeral.dollarHex variant.opcode ++ ", " ++ variant.name ++ ", " ++
    variant.mode.name ++ ")"

end Variant

end OpcodeAtlas
