import OpcodeAtlas.Logged
import OpcodeAtlas.Reference.Row
import OpcodeAtlas.Source

namespace OpcodeAtlas.Reference

open Markup (Node Start starts)

/-- The name of the reference page in faults, logs and the report. -/
def documentName : Text := "official"

/-- The effects of an instruction on the flags. -/
def readStatusTable (table : Start) (location : Location) : Except Fault (List (Text × Text)) :=
  ((table.descendants "tr").zipIdx 1).mapM fun (row, position) =>
    readStatusRow row (location.atRow position)

/-- The variants of an instruction. The first row of their table is its head. -/
def readVariantTable (table : Start) (mnemonic : Text) (location : Location) :
    Except Fault (List Variant) :=
  match (table.descendants "tr").drop 1 with
  | [] => .error ⟨.noVariantRow, location⟩
  | rows => (rows.zipIdx 1).mapM fun (row, position) =>
    readVariantRow row mnemonic (location.atRow position)

/-- An anchor right inside a third-level heading opens the part of an instruction. -/
def isMnemonicAnchor (start : Start) : Bool :=
  decide (start.parent? = some "h3" ∧ start.tag = "a")

def anchors (page : List Node) : List Start :=
  (starts none page).filter isMnemonicAnchor

/-- The name of an anchor, given its position among the anchors. -/
def anchorName (anchor : Start) (position : Nat) : Except Fault Text :=
  let name := (anchor.attribute? "name").getD []
  if name.isAllBlank then
    .error ⟨.unnamedAnchor position, some { document := documentName }⟩
  else .ok (Text.trim name)

def mnemonics (page : List Node) : Except Fault (List Text) :=
  ((anchors page).zipIdx 1).mapM fun (anchor, position) => anchorName anchor position

/-- The tables that start after the first anchor. What comes before it is the index of the page. -/
def tables (page : List Node) : List Start :=
  ((starts none page).dropWhile (!isMnemonicAnchor ·)).filter (·.tag = "table")

/-- The list two by two. -/
def pairs {α : Type} : List α → List (α × α)
  | first :: second :: rest => (first, second) :: pairs rest
  | _ => []

/-- An instruction from its status table and its variant table. -/
def readInstruction (mnemonic : Text) (status variants : Start) : Except Fault Instruction := do
  let location : Location := { document := documentName, part? := some mnemonic }
  let flagEffects ← readStatusTable status location
  let variants ← readVariantTable variants mnemonic location
  return { mnemonic, flagEffects, variants }

/-- Everything that the reference page says, or its first fault. The tables belong to the
    anchors two by two, so their number has to fit. -/
def extract (page : List Node) : Logged Source := do
  Logged.sayAll ([] :: banner "EXTRACTING OFFICIAL INSTRUCTIONS")
  let mnemonics ← mnemonics page
  let tables := tables page
  if mnemonics.isEmpty then
    Logged.fail ⟨.noAnchor, some { document := documentName }⟩
  else
    Logged.say ("Found " ++ Numeral.ofNat mnemonics.length ++ " mnemonics and " ++
      Numeral.ofNat tables.length ++ " tables")
    if tables.length ≠ 2 * mnemonics.length then
      Logged.fail ⟨.tableCount mnemonics.length tables.length, some { document := documentName }⟩
    else
      let instructions ← Logged.of <| (mnemonics.zip (pairs tables)).mapM fun (mnemonic, owned) =>
        readInstruction mnemonic owned.1 owned.2
      let variants := instructions.flatMap Instruction.variants
      Logged.say ("✓ Extracted " ++ Numeral.ofNat variants.length ++ " official opcodes for " ++
        Numeral.ofNat instructions.length ++ " mnemonics")
      return { name := documentName, mnemonics, variants, instructions }

end OpcodeAtlas.Reference
