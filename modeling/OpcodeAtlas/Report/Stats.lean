import OpcodeAtlas.Table

namespace OpcodeAtlas

/-- What one document contributed. -/
structure Contribution where
  variants : Nat
  mnemonics : List Text
deriving DecidableEq, Repr

/-- Counts gathered over the sources and the table. A source or a table that is recorded again
    replaces its own total, while counts by mode and flag effects add up. -/
structure Stats where
  bySource : OrderedMap Text Contribution := .empty
  byCycleMode : OrderedMap CycleMode Nat := .empty
  byMode : OrderedMap AddressingMode Nat := .empty
  flagEffects : Nat := 0
  totalOpcodes : Nat := 0

namespace Stats

def recordSource (stats : Stats) (source : Source) : Stats :=
  { stats with
    bySource := stats.bySource.insert source.name ⟨source.variants.length, source.mnemonics⟩
    flagEffects :=
      stats.flagEffects + (source.instructions.flatMap Instruction.flagEffects).length }

def recordVariant (stats : Stats) (variant : Variant) : Stats :=
  { stats with
    byCycleMode := stats.byCycleMode.increment variant.cycleMode
    byMode := stats.byMode.increment variant.mode }

def recordTable (stats : Stats) (table : Table) : Stats :=
  table.variants.foldl recordVariant { stats with totalOpcodes := table.size }

/-- The counts of a whole run. -/
def collect (sources : List Source) (table : Table) : Stats :=
  (sources.foldl recordSource {}).recordTable table

/-- What a caller asks of statistics: to record a source, or to record a table. -/
inductive Call where
  | source (source : Source)
  | table (table : Table)

/-- The statistics after a call. -/
def call (stats : Stats) : Call → Stats
  | .source source => stats.recordSource source
  | .table table => stats.recordTable table

/-- The statistics after a number of calls. -/
def run (stats : Stats) (calls : List Call) : Stats :=
  calls.foldl call stats

end Stats

end OpcodeAtlas
