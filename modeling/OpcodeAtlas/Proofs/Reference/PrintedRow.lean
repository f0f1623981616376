import OpcodeAtlas.Proofs.Listing.PrintedRow
import OpcodeAtlas.Proofs.Reference.Printed
import OpcodeAtlas.Proofs.Text.Case
import OpcodeAtlas.Proofs.Text.Words

namespace OpcodeAtlas.Reference

open Markup (Node Start found)

namespace PrintedCell

theorem innerText_eq (cell : PrintedCell) {start : Start} (hnode : start.node = cell.node) :
    start.innerText = cell.text := by
  obtain ⟨-, -, hchildren⟩ := Node.element.inj hnode
  rw [Start.innerText, text, hchildren]

theorem cellText_eq (cell : PrintedCell) {start : Start} (hnode : start.node = cell.node) :
    cellText start = Text.collapse cell.text :=
  congrArg Text.collapse (cell.innerText_eq hnode)

/-- In a cell, only the cell itself can be found. -/
theorem found_node (cell : PrintedCell) {wanted : Start → Bool}
    (hseeks : Seeks ["table", "tr", "td"] wanted) (parent? : Option Text) :
    found wanted parent? [cell.node] =
      if wanted ⟨parent?, "td", cell.attributes, cell.children⟩ then [cell.node] else [] := by
  rw [node, Markup.found_element, cell.clear.found_eq_nil hseeks, List.append_nil]

end PrintedCell

namespace PrintedRow

variable (row : PrintedRow)

/-- The cells of a row are found, and nothing else that is in it. -/
theorem descendants_cells {start : Start} (hnode : start.node = row.node) :
    (start.descendants "td").map Start.node = row.cells.items.map PrintedCell.node := by
  have hseeks : Seeks ["table", "tr", "td"] fun start => start.tag = "td" := seeks_tag (by decide)
  have hcell : ∀ (cell : PrintedCell) parent?,
      found (fun start => start.tag = "td") parent? [cell.node] = [cell.node] :=
    fun cell parent? => (cell.found_node hseeks parent?).trans (if_pos (decide_eq_true rfl))
  obtain ⟨htag, -, hchildren⟩ := Node.element.inj hnode
  change found (fun start => start.tag = "td") (some start.tag) start.children = _
  rw [htag, hchildren, Layout.found_nodes_eq_map hseeks row.cells_plain hcell]

/-- Without a search for cells, only the row itself can be found in a row. -/
theorem found_node {wanted : Start → Bool} (hseeks : Seeks ["table", "tr"] wanted)
    (parent? : Option Text) :
    found wanted parent? [row.node] =
      if wanted ⟨parent?, "tr", row.attributes, row.cells.nodes PrintedCell.node⟩ then [row.node]
      else [] := by
  have hmore : Seeks ["table", "tr", "td"] wanted := hseeks.mono (by decide)
  have hcell : ∀ (cell : PrintedCell) parent?, found wanted parent? [cell.node] = [] := by
    intro cell parent?
    rw [cell.found_node hmore, hseeks.eq_false (by decide) (by decide)]
    exact if_neg Bool.false_ne_true
  rw [node, Markup.found_element, Layout.found_nodes_eq_nil hmore row.cells_plain hcell,
    List.append_nil]

end PrintedRow

namespace PrintedTable

variable (table : PrintedTable)

/-- The rows of a table are found, and nothing else that is in it. -/
theorem descendants_rows {start : Start} (hnode : start.node = table.node) :
    (start.descendants "tr").map Start.node = table.rows.items.map PrintedRow.node := by
  have hseeks : Seeks ["table", "tr"] fun start => start.tag = "tr" := seeks_tag (by decide)
  have hrow : ∀ (row : PrintedRow) parent?,
      found (fun start => start.tag = "tr") parent? [row.node] = [row.node] :=
    fun row parent? => (row.found_node hseeks parent?).trans (if_pos (decide_eq_true rfl))
  obtain ⟨htag, -, hchildren⟩ := Node.element.inj hnode
  change found (fun start => start.tag = "tr") (some start.tag) start.children = _
  rw [htag, hchildren, Layout.found_nodes_eq_map hseeks table.rows_plain hrow]

/-- Without a search for rows and cells, only the table itself can be found in a table. -/
theorem found_node {wanted : Start → Bool} (hseeks : Seeks ["table"] wanted)
    (parent? : Option Text) :
    found wanted parent? [table.node] =
      if wanted ⟨parent?, "table", table.attributes, table.rows.nodes PrintedRow.node⟩ then
        [table.node]
      else [] := by
  have hmore : Seeks ["table", "tr"] wanted := hseeks.mono (by decide)
  have hrow : ∀ (row : PrintedRow) parent?, found wanted parent? [row.node] = [] := by
    intro row parent?
    rw [row.found_node hmore, hseeks.eq_false (by decide) (by decide)]
    exact if_neg Bool.false_ne_true
  rw [node, Markup.found_element, Layout.found_nodes_eq_nil hmore table.rows_plain hrow,
    List.append_nil]

end PrintedTable

/-- A row of a status table is read as what it was printed for. -/
theorem StatusRow.readStatusRow_eq (row : StatusRow) {start : Start}
    (hnode : start.node = row.node) (location : Location) :
    readStatusRow start location = .ok row.flagEffect := by
  have hcells := row.descendants_cells hnode
  rw [row.cells_items] at hcells
  obtain ⟨flag, rest, hstart, hflag, hcells⟩ := List.map_eq_cons_iff.mp hcells
  obtain ⟨name, rest, rfl, -, hcells⟩ := List.map_eq_cons_iff.mp hcells
  obtain ⟨effect, rest, rfl, heffect, -⟩ := List.map_eq_cons_iff.mp hcells
  simp only [readStatusRow, hstart, row.flag.cellText_eq hflag, row.effect.cellText_eq heffect]
  rfl

namespace CountNote

variable (note : CountNote)

theorem collapse_ne_nil : Text.collapse note.content ≠ [] := by
  intro hnil
  have hknown := note.known
  rw [hnil] at hknown
  exact absurd hknown (by decide)

/-- The first phrase that the note has decides. -/
theorem cycleMode_eq (location? : Option Location) :
    Reference.cycleMode (Text.collapse note.content) location? = .ok note.cycleMode := by
  have hsome : (Text.toLower (Text.collapse note.content)).isEmpty = false := by
    rw [List.isEmpty_eq_false_iff, Ne, Text.toLower_eq_nil_iff]
    exact note.collapse_ne_nil
  rw [Reference.cycleMode, Text.collapse_collapse, hsome, if_neg Bool.false_ne_true, notePhrases,
    List.find?_cons, cycleMode]
  cases hpage : Text.occursIn "page crossed" (Text.toLower (Text.collapse note.content)) with
  | true => rfl
  | false =>
    have hbranch := note.known.resolve_left (Bool.eq_false_iff.mp hpage)
    simp only [List.find?_cons, hbranch]
    rfl

end CountNote

namespace VariantRow

variable (row : VariantRow)

theorem mode_eq {cell : Start} (hnode : cell.node = row.modeCell.node)
    (location? : Option Location) : Cell.mode cell.innerText location? = .ok row.mode := by
  have hname : AddressingMode.ofName? row.mode.name = some row.mode :=
    AddressingMode.ofName?_eq_some_iff.mpr rfl
  simp only [Cell.mode, row.modeCell.innerText_eq hnode, row.mode_text, hname]

theorem opcode_eq {cell : Start} (hnode : cell.node = row.opcodeCell.node)
    (location? : Option Location) :
    Reference.opcode (cellText cell) location? = .ok (row.opcode.val : Int) := by
  have hhigh := Numeral.isAlphanum_hexDigit row.upperHigh
    (show row.opcode.val / 16 < 16 by omega)
  have hlow := Numeral.isAlphanum_hexDigit row.upperLow (show row.opcode.val % 16 < 16 by omega)
  have hnone : ∀ c ∈ ['$', Numeral.hexDigit row.upperHigh (row.opcode.val / 16),
      Numeral.hexDigit row.upperLow (row.opcode.val % 16)], isBlank c = false := by
    rw [List.forall_mem_cons, List.forall_mem_cons, List.forall_mem_singleton]
    exact ⟨by decide, Text.isBlank_of_isAlphanum hhigh, Text.isBlank_of_isAlphanum hlow⟩
  have htrim := Text.strip_eq_self_of_forall hnone
  have hdollar : (Numeral.hexDigit row.upperHigh (row.opcode.val / 16) == '$') = false := by
    rw [beq_eq_false_iff_ne]
    intro heq
    rw [heq] at hhigh
    exact absurd hhigh (by decide)
  rw [row.opcodeCell.cellText_eq hnode, Text.collapse_eq_of_trim_eq row.opcode_text hnone]
  simp only [Reference.opcode, Text.trim, htrim, List.dropWhile_cons, hdollar]
  exact Cell.byte_hexDigits _ row.opcode row.upperHigh row.upperLow location?

theorem size_eq {cell : Start} (hnode : cell.node = row.sizeCell.node) (what : Text)
    (location? : Option Location) :
    Cell.count what (cellText cell) location? = .ok (row.size.value : Int) := by
  rw [row.sizeCell.cellText_eq hnode,
    Text.collapse_eq_of_trim_eq row.size_text fun _ => row.size.isBlank_of_mem_digits,
    row.size.cellCount_digits]

/-- The count and the note are told apart, whatever the gap between them is. -/
theorem countAndNote_eq {cell : Start} (hnode : cell.node = row.cyclesCell.node) :
    countAndNote (cellText cell) =
      (row.cycles.digits, (row.note?.map fun note => Text.collapse note.content).getD []) := by
  have hspace : ' ' ∉ row.cycles.digits := row.cycles.not_mem_digits (by decide)
  have htext := row.cycles_text
  rw [row.cyclesCell.cellText_eq hnode, ← Text.collapse_trim, htext]
  cases row.note? with
  | none =>
    have hcollapse := Text.collapse_of_no_blank fun _ => row.cycles.isBlank_of_mem_digits
    simp only [Option.map_none, Option.getD_none, List.append_nil, hcollapse, countAndNote,
      Text.cutAt_of_not_mem hspace]
    rfl
  | some note =>
    have hcollapse := Text.collapse_append_gap row.cycles.digits_ne_nil
      (fun _ => row.cycles.isBlank_of_mem_digits) note.gap_ne_nil note.gap_blank
      note.collapse_ne_nil
    rw [List.append_assoc] at hcollapse
    simp only [Option.map_some, Option.getD_some, CountNote.text, hcollapse, countAndNote,
      Text.cutAt_append hspace, Text.trim_collapse]

/-- A note tells how the count grows, also once its blanks are collapsed. -/
theorem cycleMode_eq (location? : Option Location) :
    Reference.cycleMode ((row.note?.map fun note => Text.collapse note.content).getD [])
      location? = .ok ((row.note?.map CountNote.cycleMode).getD .fixed) := by
  cases row.note? with
  | none => rfl
  | some note => exact note.cycleMode_eq location?

/-- A row of a variant table is read as the variant it was printed for. -/
theorem readVariantRow_eq {start : Start} (hnode : start.node = row.node) (mnemonic : Text)
    (location : Location) :
    readVariantRow start mnemonic location = .ok (row.variant mnemonic) := by
  have hcells := row.descendants_cells hnode
  rw [row.cells_items] at hcells
  obtain ⟨modeCell, rest, hstart, hmode, hcells⟩ := List.map_eq_cons_iff.mp hcells
  obtain ⟨opcodeCell, rest, rfl, hopcode, hcells⟩ := List.map_eq_cons_iff.mp hcells
  obtain ⟨sizeCell, rest, rfl, hsize, hcells⟩ := List.map_eq_cons_iff.mp hcells
  obtain ⟨cyclesCell, rest, rfl, hcycles, -⟩ := List.map_eq_cons_iff.mp hcells
  simp only [readVariantRow, hstart, row.mode_eq hmode, row.opcode_eq hopcode, row.size_eq hsize,
    row.countAndNote_eq hcycles, row.cycles.cellCount_digits, row.cycleMode_eq]
  rfl

end VariantRow

end OpcodeAtlas.Reference
