import OpcodeAtlas.Listing.Extract
import OpcodeAtlas.Proofs.Text.Numeral

namespace OpcodeAtlas.Listing

/-- Blanks on both sides of what a cell prints. -/
structure Padding where
  left : Text
  right : Text
  left_blank : ∀ c ∈ left, isBlank c = true
  right_blank : ∀ c ∈ right, isBlank c = true

theorem isBlank_space : ∀ c ∈ [' '], isBlank c = true :=
  List.forall_mem_singleton.mpr rfl

instance : Inhabited Padding :=
  ⟨⟨[' '], [], isBlank_space, by simp⟩⟩

def Padding.around (padding : Padding) (cell : Text) : Text :=
  padding.left ++ cell ++ padding.right

/-- A number in decimal digits, perhaps with zeros in front. -/
structure Count where
  value : Nat
  zeros : Nat
  length_le : zeros + (Numeral.ofNat value).length ≤ 4300

instance : Inhabited Count :=
  ⟨⟨1, 0, by decide⟩⟩

def Count.digits (count : Count) : Text :=
  List.replicate count.zeros '0' ++ Numeral.ofNat count.value

/-- A row of an opcode table. The label and the sample are printed as they are, with any blanks
around them that they have. -/
structure PrintedRow where
  label : Text
  mode : AddressingMode
  sample : Text
  opcode : Fin 256
  /-- The case of the letters among the two hexadecimal digits of the opcode. -/
  upperHigh : Bool
  upperLow : Bool
  size : Count
  /-- Without a count, a dash is printed. -/
  cycles? : Option Count
  pageCross : Bool
  opcodePadding : Padding
  sizePadding : Padding
  cyclesPadding : Padding
  label_names : AddressingMode.canonicalLabel label = mode.name
  bar_not_mem_sample : '|' ∉ sample

instance : Inhabited PrintedRow where
  default := {
    label := "Implied", mode := .implied, sample := "NOP"
    opcode := 0x1A, upperHigh := true, upperLow := true
    size := default, cycles? := none, pageCross := false
    opcodePadding := default, sizePadding := default, cyclesPadding := default
    label_names := by decide, bar_not_mem_sample := by decide }

namespace PrintedRow

variable (row : PrintedRow)

def opcodeCell : Text :=
  ['$', Numeral.hexDigit row.upperHigh (row.opcode / 16),
    Numeral.hexDigit row.upperLow (row.opcode % 16)]

def countCell : Text :=
  match row.cycles? with
  | none => ['-']
  | some count => count.digits

def cyclesCell : Text :=
  row.countCell ++ if row.pageCross then ['*'] else []

def cells : List Text :=
  [row.label, row.sample, row.opcodePadding.around row.opcodeCell,
    row.sizePadding.around row.size.digits, row.cyclesPadding.around row.cyclesCell]

def line : Text :=
  Text.join ['|'] row.cells

/-- The variant that a row is printed for. -/
def variant (mnemonic : Text) : Variant where
  opcode := row.opcode
  mnemonic := mnemonic
  size := row.size.value
  cycles := (row.cycles?.map Count.value).getD 0
  cycleMode := if row.pageCross then .pageCrossPenalty else .fixed
  mode := row.mode
  official := false

end PrintedRow

/-- A section of a listing. Of its lines, only the underline is an underline, and the rule is the
first of its kind. Behind the rows, a blank line and any notes may follow. -/
structure PrintedSection where
  beforeMnemonic : Text
  mnemonic : Text
  afterMnemonic : Text
  underline : Text
  description : List Text
  rule : Text
  rows : List PrintedRow
  notes : List Text
  opening_not_mem : '(' ∉ beforeMnemonic
  mnemonic_ne_nil : mnemonic ≠ []
  mnemonic_upper : ∀ c ∈ mnemonic, c.isUpper = true
  isUnderline_underline : isUnderline underline = true
  description_plain : ∀ line ∈ description, isUnderline line = false ∧ isTableRule line = false
  isTableRule_rule : isTableRule rule = true
  rows_ne_nil : rows ≠ []
  notes_separate : ∀ line ∈ notes.head?, Text.isAllBlank line = true
  notes_plain : ∀ line ∈ notes, isUnderline line = false

/-- Three equals signs or more are an underline. -/
theorem isUnderline_replicate {length : Nat} (hlength : 3 ≤ length) :
    isUnderline (List.replicate length '=') = true := by
  have htrim : Text.trim (List.replicate length '=') = List.replicate length '=' := by
    refine Text.strip_eq_self_of_forall fun c hc => ?_
    rw [List.eq_of_mem_replicate hc]
    decide
  rw [isUnderline, htrim]
  simp [hlength]

instance : Inhabited PrintedSection where
  default := {
    beforeMnemonic := [], mnemonic := "NOP", afterMnemonic := []
    underline := List.replicate 5 '=', description := [], rule := "---", rows := [default], notes := []
    opening_not_mem := by decide, mnemonic_ne_nil := by decide
    mnemonic_upper := by simp
    isUnderline_underline := isUnderline_replicate (by decide), description_plain := by simp
    isTableRule_rule := by decide, rows_ne_nil := by decide
    notes_separate := by simp, notes_plain := by simp }

namespace PrintedSection

variable (part : PrintedSection)

def title : Text :=
  part.beforeMnemonic ++ '(' :: (part.mnemonic ++ ')' :: part.afterMnemonic)

def body : List Text :=
  part.description ++ part.rule :: (part.rows.map PrintedRow.line ++ part.notes)

def lines : List Text :=
  part.title :: part.underline :: part.body

def variants : List Variant :=
  part.rows.map (·.variant part.mnemonic)

end PrintedSection

/-- A listing, printed line by line. -/
structure PrintedListing where
  preamble : List Text
  sections : List PrintedSection
  preamble_plain : ∀ line ∈ preamble, isUnderline line = false
  sections_ne_nil : sections ≠ []
  no_break : ∀ line ∈ preamble ++ sections.flatMap PrintedSection.lines,
    ∀ c ∈ line, isLineBreak c = false

instance : Inhabited PrintedListing where
  default := {
    preamble := [], sections := [default], preamble_plain := by simp, sections_ne_nil := by simp
    no_break := by
      have hall : ((default : PrintedSection).lines.all fun line => line.all (!isLineBreak ·)) =
          true := by decide
      simpa only [List.nil_append, List.flatMap_singleton, List.all_eq_true,
        Bool.not_eq_true'] using hall }

namespace PrintedListing

variable (listing : PrintedListing)

def lines : List Text :=
  listing.preamble ++ listing.sections.flatMap PrintedSection.lines

def text : Text :=
  Text.unlines listing.lines

/-- What a listing is printed for: one variant for each row, and each mnemonic at the place of
the first section that it heads. -/
def source : Source where
  name := documentName
  mnemonics := (listing.sections.map PrintedSection.mnemonic).eraseDups
  variants := listing.sections.flatMap PrintedSection.variants

end PrintedListing

end OpcodeAtlas.Listing
