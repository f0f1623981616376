import OpcodeAtlas.Fault
import OpcodeAtlas.Table

namespace OpcodeAtlas.RustModule

/-- Two spaces a level. -/
def margin (levels : Nat) : Text :=
  List.replicate (2 * levels) ' '

def indentLine (levels : Nat) (line : Text) : Text :=
  if line.isEmpty then [] else margin levels ++ line

/-- Every line moved right, but an empty line stays empty. -/
def indent (code : Text) (levels : Nat) : Text :=
  Text.unlines ((code.splitOn '\n').map (indentLine levels))

/-- A space in the middle of every pair that would end a block comment. -/
def spaceClosers : Text → Text
  | '*' :: '/' :: rest => '*' :: ' ' :: '/' :: spaceClosers rest
  | c :: rest => c :: spaceClosers rest
  | [] => []

/-- The base count, with the note of the reference as a comment behind it. -/
def cycles (variant : Variant) : Text :=
  let count := Numeral.ofInt variant.cycles
  if variant.cycleNote.isEmpty then count
  else count ++ " /* " ++ spaceClosers variant.cycleNote ++ " */"

/-- An opcode as a byte literal. -/
def byteLiteral (opcode : Int) : Text :=
  "0x" ++ Numeral.byteHex opcode

/-- The constructor call that makes the table's value for a variant. -/
def entryValue (variant : Variant) : Text :=
  "OpCode::new(" ++ Text.join ", " [
    byteLiteral variant.opcode,
    "\"" ++ variant.name ++ "\"",
    Numeral.ofInt variant.size,
    cycles variant,
    "CycleCalcMode::" ++ variant.cycleMode.name,
    "AddressingMode::" ++ variant.mode.name] ++ ")"

def insertion (opcode : Int) (variant : Variant) : Text :=
  "map.insert(" ++ byteLiteral opcode ++ ", " ++ entryValue variant ++ ");"

/-- The static table, one insertion a line in the order of the entries. -/
def tableLiteral (table : Table) : Text :=
  let insertions := table.opcodes.entries.map fun entry => insertion entry.1 entry.2
  let body := Text.unlines ["let mut map = HashMap::new();", Text.unlines insertions, "map"]
  Text.unlines [
    "lazy_static! \x7b",
    indent "pub static ref CPU_OPS_CODES: HashMap<u8, OpCode> = \x7b" 1,
    indent body 2,
    indent "\x7d;" 1,
    "\x7d"]

/-- The arm that hands a mnemonic to the method of its name and moves past the operand. -/
def dispatchArm (mnemonic : Text) : Text :=
  Text.unlines [
    "\"" ++ mnemonic ++ "\" => \x7b",
    indent ("cpu." ++ Text.toLower mnemonic ++ "(&op.addressing_mode);") 1,
    indent "cpu.program_counter += op.bytes - 1" 1,
    "\x7d"]

/-- The arm for a name that no mnemonic of the registry matches. -/
def fallbackArm : Text :=
  "_ => panic!(\"no handler for opcode \x7b\x7d\", op.name),"

/-- The function that executes an opcode. Its match looks at the name without leading marks, so
    official and undocumented variants of a mnemonic share one arm. -/
def dispatch (table : Table) : Text :=
  let arms := table.registry.map dispatchArm ++ [fallbackArm]
  Text.unlines [
    "pub fn call(cpu: &mut CPU, op: &OpCode) \x7b",
    indent ("match op.name.trim_start_matches('" ++ [Variant.unofficialMark] ++ "') \x7b") 1,
    indent (Text.join "\n\n" arms) 2,
    indent "\x7d" 1,
    "\x7d"]

/-- Every variant has the arm of its mnemonic. The first one that has none is reported. -/
def checkDispatch (table : Table) : Except Fault Unit :=
  match table.variants.find? fun variant => !table.registry.contains variant.mnemonic with
  | none => .ok ()
  | some variant => .error ⟨.noDispatchArm variant.opcode variant.name, none⟩

def header : Text :=
  Text.unlines [
    "// Generated by opcode_extraction from the Obelisk 6502 instruction reference",
    "// and the NESdev undocumented opcodes document. Do not edit by hand.",
    []]

def useDeclarations : Text :=
  Text.unlines [
    "use std::collections::HashMap;",
    [],
    "use crate::cpu::AddressingMode;",
    "use crate::cpu::CycleCalcMode;",
    "use crate::cpu::OpCode;",
    "use crate::cpu::CPU;",
    []]

/-- The module for a table that its registry covers: the table and the function that dispatches
    over it. -/
def render (table : Table) : Except Fault Text := do
  checkDispatch table
  return Text.unlines [header, useDeclarations, tableLiteral table, [], dispatch table, []]

end OpcodeAtlas.RustModule
