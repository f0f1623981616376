import OpcodeAtlas.Logged
import OpcodeAtlas.Table

namespace OpcodeAtlas.Table

/-- A variant is as long as its mode makes it. -/
def checkSize (source : Text) (variant : Variant) : Except Fault Unit :=
  if variant.size = variant.mode.size then .ok ()
  else .error {
    cause := .sizeMismatch variant.opcode variant.size variant.mode
    location? := some { document := source, part? := some variant.mnemonic } }

/-- Adds a variant of the named source under its opcode, which no earlier variant may have
    claimed. -/
def claim (source : Text) (opcodes : OrderedMap Int Variant) (variant : Variant) :
    Except Fault (OrderedMap Int Variant) := do
  checkSize source variant
  match opcodes.get? variant.opcode with
  | some earlier =>
    .error ⟨.opcodeCollision variant.opcode earlier.describe variant.describe, none⟩
  | none => .ok (opcodes.insert variant.opcode variant)

/-- Adds all variants of a source. Only a source that is added as a whole is logged. -/
def addSource (opcodes : OrderedMap Int Variant) (source : Source) :
    Logged (OrderedMap Int Variant) := do
  let opcodes ← Logged.of (source.variants.foldlM (claim source.name) opcodes)
  Logged.say ("  " ++ source.name ++ ": " ++ Numeral.ofNat source.variants.length ++ " opcodes")
  return opcodes

/-- The mnemonics of the sources in order of first discovery, each once. -/
def registryOf (sources : List Source) : List Text :=
  (sources.flatMap Source.discovered).eraseDups

/-- The union of the sources. They have to share out the opcodes among themselves, and every
    mnemonic that one of them lists has to have a variant. -/
def merge (sources : List Source) : Logged Table := do
  Logged.sayAll ([] :: banner "MERGING OPCODE TABLES")
  let opcodes ← sources.foldlM addSource .empty
  let registry := registryOf sources
  let used := opcodes.values.map Variant.mnemonic
  let orphans := registry.filter fun name => !used.contains name
  if orphans.isEmpty then
    Logged.say ("✓ Merged " ++ Numeral.ofNat opcodes.size ++ " opcodes, " ++
      Numeral.ofNat registry.length ++ " mnemonics")
    return ⟨opcodes, registry, sources.map Source.name⟩
  else
    Logged.fail ⟨.orphanMnemonics orphans, some { document := "merge" }⟩

end OpcodeAtlas.Table
