import OpcodeAtlas.Proofs.AddressingMode
import OpcodeAtlas.Proofs.Cell
import OpcodeAtlas.Proofs.Listing.Printed
import OpcodeAtlas.Proofs.Outcome

namespace OpcodeAtlas.Listing

theorem Padding.trim_around (padding : Padding) {cell : Text}
    (hcell : ∀ c ∈ cell, isBlank c = false) : Text.trim (padding.around cell) = cell := by
  rw [Text.trim, Padding.around,
    Text.strip_append_append padding.left_blank padding.right_blank,
    Text.strip_eq_self_of_forall hcell]

theorem Padding.not_mem_around (padding : Padding) {cell : Text} {c : Char}
    (hc : isBlank c = false) (hcell : c ∉ cell) : c ∉ padding.around cell := by
  intro hmem
  rw [Padding.around, List.mem_append, List.mem_append] at hmem
  obtain (hleft | hmem) | hright := hmem
  · exact absurd (padding.left_blank c hleft) (by simp [hc])
  · exact hcell hmem
  · exact absurd (padding.right_blank c hright) (by simp [hc])

namespace Count

variable (count : Count)

theorem isDigit_of_mem_digits {c : Char} (hmem : c ∈ count.digits) : c.isDigit = true := by
  obtain hzero | hdigit := List.mem_append.mp hmem
  · rw [List.eq_of_mem_replicate hzero]
    decide
  · exact Nat.isDigit_of_mem_toDigits (by decide) (by decide) hdigit

theorem digits_ne_nil : count.digits ≠ [] :=
  List.append_ne_nil_of_right_ne_nil _ Nat.toDigits_ne_nil

theorem isBlank_of_mem_digits {c : Char} (hmem : c ∈ count.digits) : isBlank c = false :=
  Text.isBlank_of_isAlphanum (Text.isAlphanum_of_isDigit (count.isDigit_of_mem_digits hmem))

theorem not_mem_digits {c : Char} (hc : c.isDigit = false) : c ∉ count.digits := by
  intro hmem
  rw [count.isDigit_of_mem_digits hmem] at hc
  cases hc

/-- The zeros in front make no difference. -/
theorem readInt?_digits : Numeral.readInt? .decimal count.digits = some (count.value : Int) := by
  have hlength : count.digits.length ≤ 4300 := by
    rw [digits, List.length_append, List.length_replicate]
    exact count.length_le
  rw [Numeral.readInt?_decimal count.digits_ne_nil (fun c => count.isDigit_of_mem_digits) hlength,
    digits, Nat.ofDigitChars_append, Nat.ofDigitChars_replicate_zero, Nat.mul_zero, Numeral.ofNat,
    Nat.ofDigitChars_ten_toDigits]

theorem cellCount_digits (what : Text) (location? : Option Location) :
    Cell.count what count.digits location? = .ok (count.value : Int) := by
  have htrim : Text.trim count.digits = count.digits :=
    Text.strip_eq_self_of_forall fun c => count.isBlank_of_mem_digits
  rw [Cell.count, Cell.number, htrim, count.readInt?_digits]

end Count

namespace PrintedRow

variable (row : PrintedRow)

/-- A label with a bar in it would name no mode. -/
theorem bar_not_mem_label : '|' ∉ row.label := by
  intro hmem
  have hname := AddressingMode.mem_canonicalLabel hmem (by decide) (by decide)
  rw [row.label_names] at hname
  revert hname
  cases row.mode <;> decide

theorem mem_opcodeCell {c : Char} (hmem : c ∈ row.opcodeCell) :
    c = '$' ∨ c.isAlphanum = true := by
  have hhigh := Numeral.isAlphanum_hexDigit row.upperHigh
    (show row.opcode.val / 16 < 16 by omega)
  have hlow := Numeral.isAlphanum_hexDigit row.upperLow (show row.opcode.val % 16 < 16 by omega)
  simp only [opcodeCell, List.mem_cons, List.not_mem_nil, or_false] at hmem
  obtain rfl | rfl | rfl := hmem
  · exact Or.inl rfl
  · exact Or.inr hhigh
  · exact Or.inr hlow

theorem isBlank_of_mem_opcodeCell {c : Char} (hmem : c ∈ row.opcodeCell) : isBlank c = false := by
  obtain rfl | hc := row.mem_opcodeCell hmem
  · decide
  · exact Text.isBlank_of_isAlphanum hc

theorem opcode_opcodeCell (location? : Option Location) :
    Listing.opcode row.opcodeCell location? = .ok (row.opcode.val : Int) :=
  Cell.byte_hexDigits _ row.opcode row.upperHigh row.upperLow location?

/-- A cell of cycles holds nothing but digits, the dash and the mark. -/
theorem mem_cyclesCell {c : Char} (hmem : c ∈ row.cyclesCell) :
    c = '-' ∨ c = '*' ∨ c.isDigit = true := by
  rw [cyclesCell, countCell] at hmem
  obtain hcount | hmark := List.mem_append.mp hmem
  · cases hcycles : row.cycles? with
    | none => exact Or.inl (by simpa [hcycles] using hcount)
    | some count =>
      rw [hcycles] at hcount
      exact Or.inr (Or.inr (count.isDigit_of_mem_digits hcount))
  · cases hcross : row.pageCross with
    | false => simp [hcross] at hmark
    | true => exact Or.inr (Or.inl (by simpa [hcross] using hmark))

theorem isBlank_of_mem_cyclesCell {c : Char} (hmem : c ∈ row.cyclesCell) : isBlank c = false := by
  obtain rfl | rfl | hc := row.mem_cyclesCell hmem
  · decide
  · decide
  · exact Text.isBlank_of_isAlphanum (Text.isAlphanum_of_isDigit hc)

theorem cycleMode_cyclesCell :
    Listing.cycleMode row.cyclesCell = if row.pageCross then .pageCrossPenalty else .fixed := by
  have hmark : row.cyclesCell.contains pageCrossMark = row.pageCross := by
    cases hcross : row.pageCross with
    | false =>
      have hnone : pageCrossMark ∉ row.countCell := by
        rw [countCell]
        split
        · decide
        · next count _ => exact count.not_mem_digits (by decide)
      simpa [cyclesCell, hcross] using hnone
    | true => simp [cyclesCell, hcross, pageCrossMark]
  rw [Listing.cycleMode, hmark]

/-- Without the mark, a cell of cycles is its count. -/
theorem trim_filter_cyclesCell :
    Text.trim (row.cyclesCell.filter (· != pageCrossMark)) = row.countCell := by
  have hcount : row.countCell.filter (· != pageCrossMark) = row.countCell := by
    rw [List.filter_eq_self]
    intro c hc
    rw [countCell] at hc
    cases hcycles : row.cycles? with
    | none =>
      rw [hcycles, List.mem_singleton] at hc
      rw [hc]
      decide
    | some count =>
      rw [hcycles] at hc
      simp only [bne_iff_ne]
      rintro rfl
      exact count.not_mem_digits (by decide) hc
  have hmark : (if row.pageCross then ['*'] else []).filter (· != pageCrossMark) = [] := by
    cases row.pageCross <;> decide
  rw [cyclesCell, List.filter_append, hcount, hmark, List.append_nil]
  refine Text.strip_eq_self_of_forall fun c hc => row.isBlank_of_mem_cyclesCell ?_
  exact List.mem_append_left _ hc

theorem cycles_cyclesCell (location? : Option Location) :
    Listing.cycles row.cyclesCell location? =
      .ok (row.cycles?.map Count.value |>.getD 0 : Nat) := by
  rw [Listing.cycles, trim_filter_cyclesCell, countCell]
  cases hcycles : row.cycles? with
  | none => rfl
  | some count =>
    have hdash : count.digits ≠ "-".toList := by
      intro heq
      exact count.not_mem_digits (c := '-') (by decide) (by simp [heq])
    simp only [if_neg hdash, Cell.number, count.readInt?_digits]
    rfl

theorem bar_not_mem_cells : ∀ cell ∈ row.cells, '|' ∉ cell := by
  have hopcode : '|' ∉ row.opcodeCell := by
    intro hmem
    obtain hc | hc := row.mem_opcodeCell hmem
    · exact absurd hc (by decide)
    · exact absurd hc (by decide)
  have hcycles : '|' ∉ row.cyclesCell := by
    intro hmem
    obtain hc | hc | hc := row.mem_cyclesCell hmem
    · exact absurd hc (by decide)
    · exact absurd hc (by decide)
    · exact absurd hc (by decide)
  intro cell hcell
  simp only [cells, List.mem_cons, List.not_mem_nil, or_false] at hcell
  obtain rfl | rfl | rfl | rfl | rfl := hcell
  · exact row.bar_not_mem_label
  · exact row.bar_not_mem_sample
  · exact row.opcodePadding.not_mem_around (by decide) hopcode
  · exact row.sizePadding.not_mem_around (by decide) (row.size.not_mem_digits (by decide))
  · exact row.cyclesPadding.not_mem_around (by decide) hcycles

/-- A printed row is read as the variant it was printed for. -/
theorem readRow_line (mnemonic : Text) (location? : Option Location) :
    readRow row.line mnemonic location? = .ok (row.variant mnemonic) := by
  have hcells : row.line.splitOn '|' = row.cells :=
    Text.splitOn_join (List.cons_ne_nil _ _) row.bar_not_mem_cells
  have hmode : Cell.mode (Text.trim row.label) location? = .ok row.mode := by
    have hname : AddressingMode.ofName? row.mode.name = some row.mode :=
      AddressingMode.ofName?_eq_some_iff.mpr rfl
    simp only [Cell.mode, AddressingMode.canonicalLabel_trim, row.label_names, hname]
  rw [readRow, hcells]
  simp only [cells, List.map_cons, List.map_nil,
    row.opcodePadding.trim_around (fun _ => row.isBlank_of_mem_opcodeCell),
    row.sizePadding.trim_around (fun _ => row.size.isBlank_of_mem_digits),
    row.cyclesPadding.trim_around (fun _ => row.isBlank_of_mem_cyclesCell),
    opcode_opcodeCell, row.size.cellCount_digits, cycles_cyclesCell, hmode, cycleMode_cyclesCell]
  rfl

end PrintedRow

end OpcodeAtlas.Listing
