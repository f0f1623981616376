import OpcodeAtlas.Fault

namespace OpcodeAtlas.Listing

/-- The name of the listing of undocumented opcodes in faults, logs and the report. -/
def documentName : Text := "undocumented"

/-- Where in the listing a section lies. -/
def locate (title : Text) : Location :=
  { document := documentName, part? := some title }

/-- The line under a title: three or more equals signs and nothing else. -/
def isUnderline (line : Text) : Bool :=
  let line := Text.trim line
  decide (3 ≤ line.length) && line.all (· == '=')

/-- A title and the lines between its underline and the next title. -/
structure Section where
  title : Text
  lines : List Text
deriving DecidableEq, Repr

/-- What a scanner is in the middle of: looking for the first title, or holding back the lines
    of the section that is open, latest first. -/
inductive Phase where
  | seeking
  | buffering (title : Text) (held : List Text)
deriving DecidableEq, Repr

/-- Splits a listing into sections line by line. A title is recognised only at its underline,
    so the line before one has to be at hand when the underline comes. -/
structure Scanner where
  phase : Phase := .seeking
  /-- The last line seen while seeking that is no underline, trimmed. A blank one opens nothing. -/
  candidate : Text := []
  /-- The title of the section that was open last, once it is closed by the end of the text. -/
  closedTitle? : Option Text := none
  sections : List Section := []
deriving DecidableEq, Repr

namespace Scanner

/-- The title of the section that is open, or else of the one that was open last. -/
def title? (scanner : Scanner) : Option Text :=
  match scanner.phase with
  | .seeking => scanner.closedTitle?
  | .buffering title _ => some title

/-- The lines held back, in the order of the text. -/
def buffer (scanner : Scanner) : List Text :=
  match scanner.phase with
  | .seeking => []
  | .buffering _ held => held.reverse

/-- The scanner after the next line, and the fault if the line is refused. Before the first title, an
    underline without a candidate passes as preamble. Inside a section, an underline has to follow a
    title line, which is taken back from the section it closes. This is checked before anything is
    changed. -/
def feed (scanner : Scanner) (line : Text) : Scanner × Option Fault :=
  match scanner.phase with
  | .seeking =>
    if !isUnderline line then ({ scanner with candidate := Text.trim line }, none)
    else if scanner.candidate.isEmpty then (scanner, none)
    else ({ scanner with phase := .buffering scanner.candidate [] }, none)
  | .buffering title held =>
    if !isUnderline line then ({ scanner with phase := .buffering title (line :: held) }, none)
    else match held with
      | [] => (scanner, some ⟨.untitledUnderline, locate title⟩)
      | last :: earlier =>
        if Text.isAllBlank last then (scanner, some ⟨.untitledUnderline, locate title⟩)
        else ({ scanner with
          phase := .buffering (Text.trim last) []
          sections := scanner.sections ++ [⟨title, earlier.reverse⟩] }, none)

/-- The next line of a scan, which ends with the first line that is refused. -/
def advance (scanner : Scanner) (line : Text) : Except Fault Scanner :=
  match scanner.feed line with
  | (next, none) => .ok next
  | (_, some fault) => .error fault

/-- The end of the text closes the section that is open. -/
def finish (scanner : Scanner) : Scanner :=
  match scanner.phase with
  | .seeking => scanner
  | .buffering title held => { scanner with
      phase := .seeking
      closedTitle? := some title
      sections := scanner.sections ++ [⟨title, held.reverse⟩] }

end Scanner

/-- The sections of a listing. Lines before the first title belong to none. -/
def sectionsOf (lines : List Text) : Except Fault (List Section) := do
  let scanner ← lines.foldlM Scanner.advance {}
  return scanner.finish.sections

end OpcodeAtlas.Listing
