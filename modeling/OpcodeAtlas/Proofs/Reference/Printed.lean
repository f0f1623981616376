import OpcodeAtlas.Proofs.Listing.Printed
import OpcodeAtlas.Proofs.Reference.Layout

namespace OpcodeAtlas.Reference

open Listing (Count isBlank_space)
open Markup (Node innerTexts)

/-- A cell with any markup in it but tables, rows and cells. -/
structure PrintedCell where
  attributes : List (Text × Text)
  children : List Node
  clear : Clear ["table", "tr", "td"] (some "td") children

instance : Inhabited PrintedCell :=
  ⟨⟨[], [], by decide⟩⟩

namespace PrintedCell

def node (cell : PrintedCell) : Node :=
  .element "td" cell.attributes cell.children

def text (cell : PrintedCell) : Text :=
  innerTexts cell.children

/-- A cell with nothing but text in it. -/
def ofText (text : Text) : PrintedCell where
  attributes := []
  children := [.text text]
  clear := nofun

end PrintedCell

/-- A row of cells, with any markup between them and around them but tables, rows and more cells. -/
structure PrintedRow where
  attributes : List (Text × Text)
  cells : Layout PrintedCell
  cells_plain : cells.Plain ["table", "tr", "td"] (some "tr")

instance : Inhabited PrintedRow :=
  ⟨⟨[], .done, trivial⟩⟩

def PrintedRow.node (row : PrintedRow) : Node :=
  .element "tr" row.attributes (row.cells.nodes PrintedCell.node)

/-- A table of rows, with any markup between them and around them but tables and more rows. -/
structure PrintedTable where
  attributes : List (Text × Text)
  rows : Layout PrintedRow
  rows_plain : rows.Plain ["table", "tr"] (some "table")

def PrintedTable.node (table : PrintedTable) : Node :=
  .element "table" table.attributes (table.rows.nodes PrintedRow.node)

/-- A row of a status table. Of its cells, the first and the third count. -/
structure StatusRow extends PrintedRow where
  flag : PrintedCell
  name : PrintedCell
  effect : PrintedCell
  others : List PrintedCell
  cells_items : cells.items = flag :: name :: effect :: others

instance : Inhabited StatusRow where
  default := {
    attributes := [], cells := .item (.ofText "C") (.item default (.item default .done))
    cells_plain := trivial
    flag := .ofText "C", name := default, effect := default, others := [], cells_items := rfl }

/-- What a row of a status table says: a flag and the effect on it, each on one line. -/
def StatusRow.flagEffect (row : StatusRow) : Text × Text :=
  (Text.collapse row.flag.text, Text.collapse row.effect.text)

/-- A note behind a count of cycles, with the gap in front of it. -/
structure CountNote where
  gap : Text
  content : Text
  gap_ne_nil : gap ≠ []
  gap_blank : ∀ c ∈ gap, isBlank c = true
  known : Text.occursIn "page crossed" (Text.toLower (Text.collapse content)) = true ∨
    Text.occursIn "branch succeeds" (Text.toLower (Text.collapse content)) = true

instance : Inhabited CountNote :=
  ⟨⟨[' '], "(+1 if page crossed)", List.cons_ne_nil _ _, isBlank_space, Or.inl (by decide)⟩⟩

namespace CountNote

def text (note : CountNote) : Text :=
  note.gap ++ note.content

/-- A crossed page counts more than a branch. -/
def cycleMode (note : CountNote) : CycleMode :=
  if Text.occursIn "page crossed" (Text.toLower (Text.collapse note.content)) then
    .pageCrossPenalty
  else .branchTakenPenalty

end CountNote

/-- A row of a variant table. Its first four cells have blanks around what they say, or none. -/
structure VariantRow extends PrintedRow where
  modeCell : PrintedCell
  opcodeCell : PrintedCell
  sizeCell : PrintedCell
  cyclesCell : PrintedCell
  others : List PrintedCell
  cells_items : cells.items = modeCell :: opcodeCell :: sizeCell :: cyclesCell :: others
  mode : AddressingMode
  opcode : Fin 256
  /-- The case of the letters among the two hexadecimal digits of the opcode. -/
  upperHigh : Bool
  upperLow : Bool
  size : Count
  cycles : Count
  note? : Option CountNote
  mode_text : AddressingMode.canonicalLabel modeCell.text = mode.name
  opcode_text : Text.trim opcodeCell.text =
    ['$', Numeral.hexDigit upperHigh (opcode.val / 16), Numeral.hexDigit upperLow (opcode.val % 16)]
  size_text : Text.trim sizeCell.text = size.digits
  cycles_text : Text.trim cyclesCell.text =
    cycles.digits ++ (note?.map CountNote.text).getD []

instance : Inhabited VariantRow where
  default := {
    attributes := []
    cells := .item (.ofText "Implied") (.item (.ofText "$EA") (.item (.ofText "1")
      (.item (.ofText " 1 ") .done)))
    cells_plain := trivial
    modeCell := .ofText "Implied", opcodeCell := .ofText "$EA", sizeCell := .ofText "1"
    cyclesCell := .ofText " 1 ", others := [], cells_items := rfl
    mode := .implied, opcode := ⟨0xEA, by decide⟩, upperHigh := true, upperLow := true
    size := default, cycles := default, note? := none
    mode_text := by decide, opcode_text := by decide, size_text := by decide
    cycles_text := by decide }

/-- The variant that a row is printed for. -/
def VariantRow.variant (row : VariantRow) (mnemonic : Text) : Variant where
  opcode := row.opcode.val
  mnemonic := mnemonic
  size := row.size.value
  cycles := row.cycles.value
  cycleMode := (row.note?.map CountNote.cycleMode).getD .fixed
  mode := row.mode
  cycleNote := (row.note?.map fun note => Text.collapse note.content).getD []

structure StatusTable extends PrintedTable where
  statusRows : List StatusRow
  rows_items : rows.items = statusRows.map StatusRow.toPrintedRow

instance : Inhabited StatusTable where
  default := {
    attributes := [], rows := .item (default : StatusRow).toPrintedRow .done, rows_plain := trivial
    statusRows := [default], rows_items := rfl }

/-- A variant table has a head with any cells. -/
structure VariantTable extends PrintedTable where
  head : PrintedRow
  variantRows : List VariantRow
  rows_items : rows.items = head :: variantRows.map VariantRow.toPrintedRow
  variantRows_ne_nil : variantRows ≠ []

instance : Inhabited VariantTable where
  default := {
    attributes := []
    rows := .group "tbody" []
      (.item default (.item (default : VariantRow).toPrintedRow .done)) .done
    rows_plain := ⟨by decide, by decide, trivial, trivial⟩
    head := default, variantRows := [default], rows_items := rfl
    variantRows_ne_nil := List.cons_ne_nil _ _ }

/-- The part of a page that is about an instruction: a heading with a named anchor and two tables,
with any markup between them but tables and more anchors. -/
structure PrintedSection where
  headingAttributes : List (Text × Text)
  beforeAnchor : List Node
  anchorAttributes : List (Text × Text)
  name : Text
  anchorChildren : List Node
  afterAnchor : List Node
  description : List Node
  status : StatusTable
  between : List Node
  variants : VariantTable
  notes : List Node
  beforeAnchor_clear : Clear ["table"] (some "h3") beforeAnchor
  anchor_named : anchorAttributes.lookup ("name" : Text) = some name
  name_not_blank : name.isAllBlank = false
  anchorChildren_clear : Clear ["table"] (some "a") anchorChildren
  afterAnchor_clear : Clear ["table"] (some "h3") afterAnchor
  description_clear : Clear ["table"] none description
  between_clear : Clear ["table"] none between
  notes_clear : Clear ["table"] none notes

instance : Inhabited PrintedSection where
  default := {
    headingAttributes := [], beforeAnchor := [], anchorAttributes := [("name", "NOP")]
    name := "NOP", anchorChildren := [], afterAnchor := [.text "NOP - No Operation"]
    description := [.element "p" [] []], status := default, between := [], variants := default
    notes := []
    beforeAnchor_clear := nofun, anchor_named := by decide, name_not_blank := by decide
    anchorChildren_clear := nofun, afterAnchor_clear := nofun, description_clear := by decide
    between_clear := nofun, notes_clear := nofun }

namespace PrintedSection

variable (part : PrintedSection)

def anchor : Node :=
  .element "a" part.anchorAttributes part.anchorChildren

def heading : Node :=
  .element "h3" part.headingAttributes (part.beforeAnchor ++ part.anchor :: part.afterAnchor)

/-- What is behind the heading. -/
def body : List Node :=
  part.description ++ part.status.node :: (part.between ++ part.variants.node :: part.notes)

def nodes : List Node :=
  part.heading :: part.body

/-- The instruction that a section is printed for. -/
def instruction : Instruction where
  mnemonic := Text.trim part.name
  flagEffects := part.status.statusRows.map StatusRow.flagEffect
  variants := part.variants.variantRows.map (·.variant (Text.trim part.name))

end PrintedSection

/-- An element around the sections of a page, with other nodes next to what it is around. -/
structure Wrapper where
  tag : Text
  attributes : List (Text × Text)
  before : List Node
  after : List Node
  tag_ne : tag ≠ "h3"
  before_clear : Clear [] none before
  after_clear : Clear ["table"] none after

instance : Inhabited Wrapper where
  default := {
    tag := "body", attributes := [], before := [], after := [], tag_ne := by decide
    before_clear := nofun, after_clear := nofun }

def Wrapper.around (wrapper : Wrapper) (nodes : List Node) : List Node :=
  wrapper.before ++ .element wrapper.tag wrapper.attributes nodes :: wrapper.after

/-- A page of sections, perhaps inside other elements. What leads up to the first section has no
anchors of instructions in it. -/
structure PrintedPage where
  /-- The outermost element comes first. -/
  wrappers : List Wrapper
  leading : List Node
  sections : List PrintedSection
  leading_clear : Clear [] none leading
  sections_ne_nil : sections ≠ []

instance : Inhabited PrintedPage where
  default := {
    wrappers := [default], leading := [], sections := [default], leading_clear := nofun
    sections_ne_nil := List.cons_ne_nil _ _ }

namespace PrintedPage

variable (page : PrintedPage)

def nodes : List Node :=
  page.wrappers.foldr Wrapper.around
    (page.leading ++ page.sections.flatMap PrintedSection.nodes)

/-- What a page is printed for: one instruction for each section. -/
def source : Source where
  name := documentName
  mnemonics := page.sections.map fun part => Text.trim part.name
  variants := page.sections.flatMap fun part => part.instruction.variants
  instructions := page.sections.map PrintedSection.instruction

end PrintedPage

end OpcodeAtlas.Reference
