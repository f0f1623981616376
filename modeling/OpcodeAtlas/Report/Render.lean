import OpcodeAtlas.Logged
import OpcodeAtlas.Report.Percent
import OpcodeAtlas.Report.Stats

namespace OpcodeAtlas.Report

open Numeral (ofNat)

def singleRule : Text :=
  List.replicate 70 '-'

def heading (title : Text) : List Text :=
  [title, singleRule]

/-- The bytes that no opcode of the table takes, in ascending order. -/
def unassigned (table : Table) : List Nat :=
  (List.range 256).filter fun byte => (table.lookup byte).isNone

/-- Sixteen bytes a row. -/
def unassignedRows (table : Table) : List Text :=
  (Text.chunks 16 (unassigned table)).map fun row =>
    "  " ++ Text.join " " (row.map (Numeral.dollarHex ∘ Int.ofNat))

/-- Twelve mnemonics a row. -/
def mnemonicRows (mnemonics : List Text) : List Text :=
  (Text.chunks 12 mnemonics).map fun row => "  " ++ Text.join ", " row

def overall (stats : Stats) (table : Table) : List Text :=
  let totals : List Text := [
    "Total opcodes: " ++ ofNat stats.totalOpcodes ++ "/256",
    "Dispatch mnemonics: " ++ ofNat table.registry.length,
    "Documented flag effects: " ++ ofNat stats.flagEffects,
    "Unassigned opcode bytes: " ++ ofNat (unassigned table).length]
  heading "OVERALL STATISTICS" ++ totals ++ unassignedRows table

def sourceLines (name : Text) (contribution : Contribution) : List Text :=
  let summary := name ++ ": " ++ ofNat contribution.variants ++ " opcodes (" ++
    ofNat contribution.mnemonics.length ++ " mnemonics)"
  [] :: summary :: mnemonicRows contribution.mnemonics

def bySource (stats : Stats) : List Text :=
  heading "OPCODES BY SOURCE" ++
  stats.bySource.entries.flatMap fun entry => sourceLines entry.1 entry.2

/-- The entries in the order of their names. -/
def sortedByName {κ α : Type} (name : κ → Text) (entries : List (κ × α)) : List (κ × α) :=
  entries.mergeSort fun a b => (name a.1).precedes (name b.1)

def byCycleMode (stats : Stats) : List Text :=
  let total := stats.totalOpcodes
  heading "CYCLE COST MODES" ++
  (sortedByName CycleMode.name stats.byCycleMode.entries).map fun (mode, count) =>
    mode.name.padRight 20 ++ ": " ++ ofNat count ++ "/" ++ ofNat total ++ " (" ++
      percent count total ++ "%)"

def byMode (stats : Stats) : List Text :=
  heading "ADDRESSING MODES" ++
  (sortedByName AddressingMode.name stats.byMode.entries).map fun (mode, count) =>
    mode.name.padRight 12 ++ ": " ++ ofNat count

/-- The report at the end of a run. The moment of its making is given. -/
def render (stats : Stats) (table : Table) (moment : Text) : Text :=
  Text.unlines <|
    banner "6502 OPCODE EXTRACTION REPORT" ++ ["Generated: " ++ moment, []] ++
    overall stats table ++ [[], []] ++
    bySource stats ++ [[], []] ++
    byCycleMode stats ++ [[], []] ++
    byMode stats ++ [[]] ++
    banner "END REPORT"

end OpcodeAtlas.Report
