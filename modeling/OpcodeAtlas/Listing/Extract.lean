import OpcodeAtlas.Listing.Row
import OpcodeAtlas.Listing.Section
import OpcodeAtlas.Logged
import OpcodeAtlas.Source
import OpcodeAtlas.Text.Letter
import OpcodeAtlas.Text.Lines

namespace OpcodeAtlas.Listing

/-- What stands between the first opening parenthesis and the next closing one. -/
def parenthesized? (title : Text) : Option Text :=
  match title.dropWhile (· != '(') with
  | [] => none
  | _ :: rest => if rest.contains ')' then some (rest.takeWhile (· != ')')) else none

/-- The mnemonic of a section: the name in parentheses in its title, in upper case. -/
def mnemonicOf (title : Text) : Except Fault Text :=
  let mnemonic := Text.toUpper (Text.trim ((parenthesized? title).getD []))
  if !mnemonic.isEmpty && mnemonic.all isLetter then .ok mnemonic
  else .error ⟨.titleWithoutMnemonic, locate title⟩

/-- The line between the head of an opcode table and its rows: a dash, then two or more dashes
    and bars. -/
def isTableRule (line : Text) : Bool :=
  match Text.squeeze line with
  | '-' :: rest => decide (2 ≤ rest.length) && rest.all fun c => c == '-' || c == '|'
  | _ => false

namespace Section

/-- The lines from the first table rule to the next blank line. A section has a table, and the
    table has rows. -/
def rows (part : Section) : Except Fault (List Text) :=
  match part.lines.dropWhile (!isTableRule ·) with
  | [] => .error ⟨.noOpcodeTable, locate part.title⟩
  | _ :: rest =>
    match rest.takeWhile (!Text.isAllBlank ·) with
    | [] => .error ⟨.noOpcodeRow, locate part.title⟩
    | rows => .ok rows

/-- The mnemonic of a section and the variants in its table. -/
def read (part : Section) : Except Fault (Text × List Variant) := do
  let mnemonic ← mnemonicOf part.title
  let rows ← part.rows
  let variants ← (rows.zipIdx 1).mapM fun (row, position) =>
    readRow row mnemonic ((locate part.title).atRow position)
  return (mnemonic, variants)

end Section

/-- Everything that a listing says, or its first fault. -/
def extract (document : Text) : Logged Source := do
  Logged.sayAll ([] :: banner "EXTRACTING UNDOCUMENTED OPCODES")
  let sections ← sectionsOf document.lines
  if sections.isEmpty then
    Logged.fail ⟨.noSection, some { document := documentName }⟩
  else
    Logged.say ("Found " ++ Numeral.ofNat sections.length ++ " sections")
    let parts ← Logged.of (sections.mapM Section.read)
    let mnemonics := (parts.map Prod.fst).eraseDups
    let variants := parts.flatMap Prod.snd
    Logged.say ("✓ Extracted " ++ Numeral.ofNat variants.length ++ " undocumented opcodes for " ++
      Numeral.ofNat mnemonics.length ++ " mnemonics")
    return { name := documentName, mnemonics, variants }

end OpcodeAtlas.Listing
