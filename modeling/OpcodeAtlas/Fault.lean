import OpcodeAtlas.AddressingMode
import OpcodeAtlas.Location
import OpcodeAtlas.Text.Quoted

namespace OpcodeAtlas

/-- The classes of failure that a caller tells apart. Each of them ends the run: a table with a
    row missing would mislead the emulator. -/
inductive FaultKind where
  /-- A document could not be downloaded. -/
  | fetch
  /-- A document does not have the layout it is read by. -/
  | shape
  /-- A label is outside its closed vocabulary. -/
  | label
  /-- Two variants claim one opcode. -/
  | collision
  /-- A variant has no arm in the dispatch. -/
  | unmapped
  /-- The module could not be stored. -/
  | write
  | general
deriving DecidableEq, Repr

/-- Why a file operation was refused. -/
inductive FileError where
  | notFound
  | alreadyExists
  | notFolder
  | isFolder
  | nameTooLong
deriving DecidableEq, Repr

namespace FileError

def code : FileError → Nat
  | notFound => 2
  | alreadyExists => 17
  | notFolder => 20
  | isFolder => 21
  | nameTooLong => 36

def reason : FileError → Text
  | notFound => "No such file or directory"
  | alreadyExists => "File exists"
  | notFolder => "Not a directory"
  | isFolder => "Is a directory"
  | nameTooLong => "File name too long"

end FileError

/-- The tables of the reference page whose rows need a least number of cells. -/
inductive RowKind where
  | status
  | variant
deriving DecidableEq, Repr

namespace RowKind

def name : RowKind → Text
  | status => "status"
  | variant => "variant"

def leastCells : RowKind → Nat
  | status => 3
  | variant => 4

end RowKind

/-- What went wrong, with the data that its message cites. -/
inductive Cause where
  | malformed (what text : Text)
  | opcodeBeyondByte (text : Text)
  | unknownMode (label : Text)
  | unknownCycleNote (note : Text)
  | fewCells (kind : RowKind) (cells : Nat)
  | noVariantRow
  | unnamedAnchor (position : Nat)
  | noAnchor
  | tableCount (mnemonics tables : Nat)
  | untitledUnderline
  | titleWithoutMnemonic
  | noOpcodeTable
  | noOpcodeRow
  | columnCount (expected columns : Nat) (line : Text)
  | noSection
  | sizeMismatch (opcode size : Int) (mode : AddressingMode)
  | orphanMnemonics (names : List Text)
  | opcodeCollision (opcode : Int) (first second : Text)
  | noDispatchArm (opcode : Int) (name : Text)
  | timedOut (seconds reason : Text)
  | downloadFailed (reason : Text)
  | unwritable (target : Text) (error : FileError) (refused : Text)
  /-- A fault in the words of whoever reports it. -/
  | stated (kind : FaultKind) (message : Text)
deriving DecidableEq, Repr

namespace Cause

def kind : Cause → FaultKind
  | unknownMode _ | unknownCycleNote _ => .label
  | opcodeCollision .. => .collision
  | noDispatchArm .. => .unmapped
  | timedOut .. | downloadFailed _ => .fetch
  | unwritable .. => .write
  | stated kind _ => kind
  | _ => .shape

open Text Numeral in
def message : Cause → Text
  | malformed what text => "malformed " ++ what ++ " " ++ quoted text
  | opcodeBeyondByte text => "opcode " ++ quoted text ++ " does not fit in one byte"
  | unknownMode label =>
    "unrecognized addressing mode " ++ quoted (trim label) ++ " (normalized to " ++
      quoted (AddressingMode.canonicalLabel label) ++ ")"
  | unknownCycleNote note => "unrecognized cycle annotation " ++ quoted (trim note)
  | fewCells kind cells =>
    kind.name ++ " row has " ++ ofNat cells ++ " cells, expected " ++ ofNat kind.leastCells
  | noVariantRow => "variant table has no rows"
  | unnamedAnchor position => "mnemonic anchor #" ++ ofNat position ++ " has no name attribute"
  | noAnchor => "no mnemonic anchors found"
  | tableCount mnemonics tables =>
    ofNat mnemonics ++ " mnemonics need " ++ ofNat (2 * mnemonics) ++ " tables, found " ++
      ofNat tables
  | untitledUnderline => "section delimiter is not preceded by a title line"
  | titleWithoutMnemonic => "section title has no parenthesized mnemonic"
  | noOpcodeTable => "section has no opcode table"
  | noOpcodeRow => "opcode table has no rows"
  | columnCount expected columns line =>
    "row has " ++ ofNat columns ++ " columns, expected " ++ ofNat expected ++ ": " ++
      quoted (trim line)
  | noSection => "no delimited sections found"
  | sizeMismatch opcode size mode =>
    dollarHex opcode ++ " is " ++ ofInt size ++ " bytes but " ++ mode.name ++
      " instructions are " ++ ofNat mode.size
  | orphanMnemonics names => "mnemonics without any opcode: " ++ join ", " names
  | opcodeCollision opcode first second =>
    "opcode " ++ dollarHex opcode ++ " claimed by both " ++ first ++ " and " ++ second
  | noDispatchArm opcode name =>
    "opcode " ++ dollarHex opcode ++ " (" ++ name ++ ") has no dispatch entry"
  | timedOut seconds reason => "timed out after " ++ seconds ++ "s: " ++ reason
  | downloadFailed reason => "download failed: " ++ reason
  | unwritable target error refused =>
    "cannot write " ++ target ++ ": [Errno " ++ ofNat error.code ++ "] " ++ error.reason ++ ": " ++
      quoted refused
  | stated _ message => message

end Cause

/-- A failure and, where it is known, the place in a document that shows it. -/
structure Fault where
  cause : Cause
  location? : Option Location := none
deriving DecidableEq, Repr

namespace Fault

def kind (fault : Fault) : FaultKind :=
  fault.cause.kind

def message (fault : Fault) : Text :=
  fault.cause.message

/-- The message behind the place it belongs to. -/
def text (fault : Fault) : Text :=
  match fault.location? with
  | none => fault.message
  | some location => location.text ++ ": " ++ fault.message

end Fault

end OpcodeAtlas
