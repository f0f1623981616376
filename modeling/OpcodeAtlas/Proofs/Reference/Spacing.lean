import OpcodeAtlas.Proofs.Reference.Reading

namespace OpcodeAtlas.Reference

open Markup (Start)

/-- Of a cell on one line, the first word is the count and the other words are the note. -/
theorem countAndNote_collapse (text : Text) :
    countAndNote (Text.collapse text) =
      ((Text.words text).headD [], Text.join [' '] (Text.words text).tail) := by
  have hwords : ∀ word ∈ Text.words text, word ≠ [] ∧ ∀ c ∈ word, isBlank c = false :=
    fun _ => Text.mem_words
  rw [countAndNote, Text.collapse]
  generalize Text.words text = words at hwords
  cases words with
  | nil => rfl
  | cons word rest =>
    obtain ⟨⟨-, hblank⟩, hrest⟩ := List.forall_mem_cons.mp hwords
    have hspace : ' ' ∉ word := fun hmem => absurd (hblank ' ' hmem) (by decide)
    have hnote : Text.trim (Text.join [' '] rest) = Text.join [' '] rest :=
      Text.SingleSpaced.trim_eq ⟨rest, rfl, hrest⟩
    by_cases hlast : rest = []
    · subst hlast
      rw [Text.join_singleton, Text.cutAt_of_not_mem hspace]
      rfl
    · rw [Text.join_cons_of_ne_nil _ _ hlast, List.append_assoc, List.singleton_append,
        Text.cutAt_append hspace]
      exact congrArg (Prod.mk word) hnote

theorem singleSpaced_cycleNote {row : Start} {mnemonic : Text} {location : Location}
    {variant : Variant} (hread : readVariantRow row mnemonic location = .ok variant) :
    Text.SingleSpaced variant.cycleNote := by
  obtain ⟨_, _, _, cyclesCell, _, -, -, -, -, -, -, hnote, -, -⟩ := readVariantRow_eq_ok_iff.mp hread
  rw [hnote, cellText, countAndNote_collapse]
  exact ⟨_, rfl, fun _ hpiece => Text.mem_words (List.mem_of_mem_tail hpiece)⟩

theorem exists_four_cells {row : Start} (hcells : 4 ≤ (row.descendants "td").length) :
    ∃ modeCell opcodeCell sizeCell cyclesCell others, row.descendants "td" =
      modeCell :: opcodeCell :: sizeCell :: cyclesCell :: others := by
  match hrow : row.descendants "td", hcells with
  | modeCell :: opcodeCell :: sizeCell :: cyclesCell :: others, _ => exact ⟨_, _, _, _, _, rfl⟩

/-- Two rows whose first four cells say the same on one line are read alike, whatever blanks, markup
and further cells there are in them, and the note that is read of them is words with single spaces
between them. -/
theorem readVariantRow_alike {row other : Start} (hrow : 4 ≤ (row.descendants "td").length)
    (hother : 4 ≤ (other.descendants "td").length)
    (htexts : ((row.descendants "td").take 4).map cellText =
      ((other.descendants "td").take 4).map cellText) (mnemonic : Text) (location : Location) :
    Alike (readVariantRow row mnemonic location) (readVariantRow other mnemonic location) ∧
      ∀ variant, readVariantRow row mnemonic location = .ok variant →
        Text.SingleSpaced variant.cycleNote := by
  refine ⟨?_, fun variant hread => singleSpaced_cycleNote hread⟩
  obtain ⟨modeCell, opcodeCell, sizeCell, cyclesCell, others, hcells⟩ := exists_four_cells hrow
  obtain ⟨modeCell', opcodeCell', sizeCell', cyclesCell', others', hcells'⟩ :=
    exists_four_cells hother
  rw [hcells, hcells'] at htexts
  obtain ⟨hmode, hopcode, hsize, hcycles⟩ : cellText modeCell = cellText modeCell' ∧
      cellText opcodeCell = cellText opcodeCell' ∧ cellText sizeCell = cellText sizeCell' ∧
      cellText cyclesCell = cellText cyclesCell' := by simpa using htexts
  simp only [readVariantRow, hcells, hcells', hopcode, hsize, hcycles]
  exact (Cell.mode_alike hmode location).bind _

/-- A row as plain as it can be. -/
def plainRow : Start :=
  let cell (content : Text) : Markup.Node := .element "td" [] [.text content]
  { parent? := none, tag := "tr", attributes := [],
    children := [cell "Absolute,X", cell "$7D", cell "3", cell "4 (+1 if page crossed)"] }

/-- The same cells with links, comments, line breaks, other spaces and a fifth cell. -/
def adornedRow : Start :=
  let cell (children : List Markup.Node) : Markup.Node := .element "td" [] children
  { parent? := none, tag := "tr", attributes := [],
    children := [
      .text "\n  ",
      cell [.element "a" [("href", "addressing.html#ABX")] [.text "Absolute,"], .text "X\n"],
      cell [.text "\t$7", .aside "comment", .text "D"],
      cell [.element "b" [] [.text "3"]],
      cell [.text "\n4\n (+1\tif", .element "i" [] [.text "\u00a0 page "], .text "\ncrossed) "],
      cell [.text "five"]] }

theorem plainRow_alike :
    4 ≤ (plainRow.descendants "td").length ∧ 4 ≤ (adornedRow.descendants "td").length ∧
      ((plainRow.descendants "td").take 4).map cellText =
        ((adornedRow.descendants "td").take 4).map cellText ∧
      Alike (readVariantRow plainRow "ADC" { document := "official" })
        (readVariantRow adornedRow "ADC" { document := "official" }) ∧
      ∃ variant, readVariantRow plainRow "ADC" { document := "official" } = .ok variant ∧
        Text.SingleSpaced variant.cycleNote := by
  have hplain : 4 ≤ (plainRow.descendants "td").length := by decide
  have hadorned : 4 ≤ (adornedRow.descendants "td").length := by decide
  have htexts : ((plainRow.descendants "td").take 4).map cellText =
      ((adornedRow.descendants "td").take 4).map cellText := by decide
  obtain ⟨halike, hnote⟩ :=
    readVariantRow_alike hplain hadorned htexts "ADC" { document := "official" }
  exact ⟨hplain, hadorned, htexts, halike, _, rfl, hnote _ rfl⟩

end OpcodeAtlas.Reference
