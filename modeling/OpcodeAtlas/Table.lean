import OpcodeAtlas.OrderedMap
import OpcodeAtlas.Source

namespace OpcodeAtlas

/-- The variants of all sources by opcode, in the order in which they were added. -/
structure Table where
  opcodes : OrderedMap Int Variant
  /-- Each bare mnemonic once, in the order of first discovery. -/
  registry : List Text
  /-- The names of the merged sources. -/
  sources : List Text := []

namespace Table

def empty : Table :=
  ⟨.empty, [], []⟩

def size (table : Table) : Nat :=
  table.opcodes.size

def lookup (table : Table) (opcode : Int) : Option Variant :=
  table.opcodes.get? opcode

def variants (table : Table) : List Variant :=
  table.opcodes.values

def variantsFor (table : Table) (mnemonic : Text) : List Variant :=
  table.variants.filter (·.mnemonic = mnemonic)

end Table

end OpcodeAtlas
