import OpcodeAtlas.Proofs.Documents.OpcodeCells
import OpcodeAtlas.Proofs.Listing.PrintedRow
import OpcodeAtlas.Proofs.Text.DigitString

namespace OpcodeAtlas

open Listing (Padding withOpcode)
open Numeral (DigitString)

namespace Cell

theorem byte_digits (cell : Text) (digits : DigitString .hexadecimal)
    (location? : Option Location) :
    byte cell digits.text location? =
      if digits.value ≤ 255 then .ok (digits.value : Int)
      else .error ⟨.opcodeBeyondByte cell, location?⟩ := by
  have hread : Numeral.readInt? .hexadecimal digits.text = some (digits.value : Int) :=
    digits.readInt?_text
  simp only [byte, hread]
  by_cases hbyte : digits.value ≤ 255
  · rw [if_pos hbyte, if_pos (by omega)]
  · rw [if_neg hbyte, if_neg (by omega)]

theorem number_digits (what cell : Text) (digits : DigitString .decimal)
    (location? : Option Location) :
    number what cell digits.text location? =
      if digits.text.length ≤ 4300 then .ok (digits.value : Int)
      else .error ⟨.malformed what cell, location?⟩ := by
  rw [number, digits.readInt?_text]
  by_cases hlimit : digits.text.length ≤ 4300
  · have hfits : ¬4300 < digits.text.length := Nat.not_lt.mpr hlimit
    simp [Radix.digitLimit?, hfits]
  · have hlong : 4300 < digits.text.length := Nat.not_le.mp hlimit
    simp [Radix.digitLimit?, hlong]

end Cell

theorem Reference.opcode_digits (digits : DigitString .hexadecimal)
    (location? : Option Location) :
    Reference.opcode ('$' :: digits.text) location? =
      Cell.byte ('$' :: digits.text) digits.text location? := by
  have hsecond : digits.text.head? ≠ some '$' := fun hhead =>
    absurd (digits.subset_digits (List.mem_of_head? hhead)) (by decide)
  rw [Reference.opcode, digits.trim_dollar, dropWhile_dollar hsecond]

namespace Listing

/-- Whatever the other columns hold, a row is refused for its opcode cell first. -/
theorem readRow_withOpcode_of_error {cell row : Text} (hbar : '|' ∉ cell)
    (hcolumns : (row.splitOn '|').length = 5) {location? : Option Location} {fault : Fault}
    (hopcode : opcode (Text.trim cell) location? = .error fault) (mnemonic : Text) :
    readRow (withOpcode cell row) mnemonic location? = .error fault := by
  match hrow : row.splitOn '|', hcolumns with
  | [modeCell, sample, _, sizeCell, cyclesCell], _ =>
    have hcells : ((withOpcode cell row).splitOn '|').map Text.trim =
        [Text.trim modeCell, Text.trim sample, Text.trim cell, Text.trim sizeCell,
          Text.trim cyclesCell] := by
      rw [columns_withOpcode hbar, hrow]
      rfl
    simp only [readRow, hcells, hopcode]
    rfl

/-- The marks of a cell of cycles and the blanks around it are no part of its count. -/
theorem cycles_digits (padding : Padding) (digits : DigitString .decimal) (marks : Nat)
    (location? : Option Location) :
    cycles (padding.around (digits.text ++ List.replicate marks pageCrossMark)) location? =
      Cell.number "cycle count"
        (padding.around (digits.text ++ List.replicate marks pageCrossMark)) digits.text
        location? := by
  have hside {side : Text} (hblank : ∀ c ∈ side, isBlank c = true) :
      side.filter (· != pageCrossMark) = side := by
    refine List.filter_eq_self.mpr fun c hc => ?_
    rw [bne_iff_ne]
    rintro rfl
    exact absurd (hblank _ hc) (by decide)
  have hnot {mark : Char} (hmark : mark ∉ Radix.decimal.digits) : mark ∉ digits.text :=
    fun hmem => hmark (digits.subset_digits hmem)
  have hdigits : digits.text.filter (· != pageCrossMark) = digits.text := by
    refine List.filter_eq_self.mpr fun c hc => ?_
    rw [bne_iff_ne]
    rintro rfl
    exact hnot (by decide) hc
  have hcount : Text.trim
      ((padding.around (digits.text ++ List.replicate marks pageCrossMark)).filter
        (· != pageCrossMark)) = digits.text := by
    rw [Padding.around, List.filter_append, List.filter_append, List.filter_append,
      hside padding.left_blank, hside padding.right_blank, hdigits, List.filter_replicate,
      if_neg (by simp), List.append_nil]
    exact padding.trim_around fun _ => digits.isBlank_of_mem
  have hdash : digits.text ≠ "-".toList := by
    intro heq
    have hnone : '-' ∉ digits.text := hnot (by decide)
    exact hnone (by simp [heq])
  rw [cycles, hcount]
  exact if_neg hdash

end Listing

namespace Documents

/-- Numerals are read exactly, however long they are and whatever zeros they begin with. Behind a
dollar sign, both documents read hexadecimal digits as their value if it fits into a byte, and
refuse them otherwise, the listing before it looks at the rest of the row. Decimal digits are read
as their value, whatever blanks and marks are around them, and more than the limit of them are
refused. -/
theorem digits_read_exactly (hex : DigitString .hexadecimal) (decimal : DigitString .decimal)
    (padding : Padding) (marks : Nat) (what : Text) (location? : Option Location) :
    let opcodeCell := '$' :: hex.text
    let countCell := padding.around decimal.text
    let cyclesCell := padding.around (decimal.text ++ List.replicate marks '*')
    Reference.opcode opcodeCell location? =
        (if hex.value ≤ 255 then .ok (hex.value : Int)
          else .error ⟨.opcodeBeyondByte opcodeCell, location?⟩) ∧
      (∀ row mnemonic variant, Listing.readRow row mnemonic location? = .ok variant →
        hex.value ≤ 255 →
        Listing.readRow (withOpcode opcodeCell row) mnemonic location? =
          .ok { variant with opcode := hex.value }) ∧
      (∀ row mnemonic, (row.splitOn '|').length = 5 → 255 < hex.value →
        Listing.readRow (withOpcode opcodeCell row) mnemonic location? =
          .error ⟨.opcodeBeyondByte opcodeCell, location?⟩) ∧
      Cell.count what countCell location? =
        (if decimal.text.length ≤ 4300 then .ok (decimal.value : Int)
          else .error ⟨.malformed what countCell, location?⟩) ∧
      Listing.cycles cyclesCell location? =
        (if decimal.text.length ≤ 4300 then .ok (decimal.value : Int)
          else .error ⟨.malformed "cycle count" cyclesCell, location?⟩) := by
  intro opcodeCell countCell cyclesCell
  have hbar : '|' ∉ opcodeCell := by
    intro hmem
    obtain hdollar | hmem := List.mem_cons.mp hmem
    · exact absurd hdollar (by decide)
    · exact absurd (hex.subset_digits hmem) (by decide)
  have hopcode : Listing.opcode (Text.trim opcodeCell) location? =
      if hex.value ≤ 255 then .ok (hex.value : Int)
      else .error ⟨.opcodeBeyondByte opcodeCell, location?⟩ := by
    rw [hex.trim_dollar]
    exact Cell.byte_digits opcodeCell hex location?
  refine ⟨?_, fun row mnemonic variant hrow hbyte => ?_, fun row mnemonic hcolumns hbeyond => ?_, ?_,
    ?_⟩
  · rw [Reference.opcode_digits, Cell.byte_digits]
  · rw [Listing.readRow_withOpcode hbar hrow, hopcode, if_pos hbyte]
    rfl
  · rw [if_neg (Nat.not_le.mpr hbeyond)] at hopcode
    exact Listing.readRow_withOpcode_of_error hbar hcolumns hopcode mnemonic
  · rw [Cell.count, padding.trim_around fun _ => decimal.isBlank_of_mem, Cell.number_digits]
  · exact (Listing.cycles_digits padding decimal marks location?).trans
      (Cell.number_digits _ _ decimal location?)

/-- Digits with zeros in front, in both cases. -/
def paddedByte : DigitString .hexadecimal := ⟨"000fF", by decide, by decide⟩

def beyondByte : DigitString .hexadecimal := ⟨"0100", by decide, by decide⟩

def paddedCount : DigitString .decimal := ⟨"007", by decide, by decide⟩

theorem paddedDigits_read :
    (∃ variant, Listing.readRow immediateRow "AAC" none = .ok variant ∧ paddedByte.value ≤ 255 ∧
        Listing.readRow (withOpcode "$000fF" immediateRow) "AAC" none =
          .ok { variant with opcode := 255 }) ∧
      (255 < beyondByte.value ∧ (Text.splitOn '|' "a|b|c|d|e").length = 5 ∧
        Listing.readRow (withOpcode "$0100" "a|b|c|d|e") "AAC" none =
          .error ⟨.opcodeBeyondByte "$0100", none⟩) ∧
      Listing.cycles " 007**" none = .ok 7 := by
  obtain ⟨-, hread, -, -, hcycles⟩ := digits_read_exactly paddedByte paddedCount default 2 [] none
  obtain ⟨-, -, hrefused, -, -⟩ := digits_read_exactly beyondByte paddedCount default 0 [] none
  have hrow : ∃ variant, Listing.readRow immediateRow "AAC" none = .ok variant := ⟨_, rfl⟩
  obtain ⟨variant, hrow⟩ := hrow
  have hbyte : paddedByte.value ≤ 255 := by decide
  have hbeyond : 255 < beyondByte.value := by decide
  exact ⟨⟨variant, hrow, hbyte, hread _ _ _ hrow hbyte⟩,
    ⟨hbeyond, rfl, hrefused _ _ rfl hbeyond⟩, hcycles⟩

end Documents

end OpcodeAtlas
