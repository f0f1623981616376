import OpcodeAtlas.Proofs.Listing.Reading
import OpcodeAtlas.Proofs.Reference.Reading

namespace OpcodeAtlas

/-- A dollar sign, and no other one right behind it. -/
def OneDollar (text : Text) : Prop :=
  ∃ digits, text = '$' :: digits ∧ digits.head? ≠ some '$'

/-- One dollar sign in front is dropped. -/
theorem dropWhile_dollar {digits : Text} (hsecond : digits.head? ≠ some '$') :
    ('$' :: digits).dropWhile (· == '$') = digits := by
  rw [List.dropWhile_cons_of_pos (by decide)]
  cases digits with
  | nil => rfl
  | cons c rest => exact List.dropWhile_cons_of_neg (by simpa using hsecond)

namespace Listing

/-- The listing reads the same byte as the reference, but of a cell with one dollar sign only. -/
theorem opcode_trim_eq_ok_iff {cell : Text} {location? other? : Option Location} {value : Int} :
    opcode (Text.trim cell) location? = .ok value ↔
      OneDollar (Text.trim cell) ∧ Reference.opcode cell other? = .ok value := by
  rw [opcode_eq_ok_iff, Reference.opcode_eq_ok_iff]
  constructor
  · rintro ⟨digits, hcell, hread, hrange⟩
    have hsecond : digits.head? ≠ some '$' := by
      intro hhead
      obtain ⟨more, rfl⟩ := List.head?_eq_some_iff.mp hhead
      rw [Numeral.readInt?_dollar] at hread
      cases hread
    refine ⟨⟨digits, hcell, hsecond⟩, ?_, hrange⟩
    rw [hcell, dropWhile_dollar hsecond, hread]
  · rintro ⟨⟨digits, hcell, hsecond⟩, hread, hrange⟩
    rw [hcell, dropWhile_dollar hsecond] at hread
    exact ⟨digits, hcell, hread, hrange⟩

/-- The row with another cell in its opcode column. -/
def withOpcode (cell row : Text) : Text :=
  Text.join ['|'] ((row.splitOn '|').set 2 cell)

theorem columns_withOpcode {cell : Text} (hbar : '|' ∉ cell) (row : Text) :
    ((withOpcode cell row).splitOn '|').map Text.trim =
      ((row.splitOn '|').map Text.trim).set 2 (Text.trim cell) := by
  have hbars : ∀ column ∈ (row.splitOn '|').set 2 cell, '|' ∉ column := by
    intro column hcolumn
    obtain hmem | rfl := List.mem_or_eq_of_mem_set hcolumn
    · exact Text.not_mem_of_mem_splitOn hmem
    · exact hbar
  have hne : (row.splitOn '|').set 2 cell ≠ [] := by
    rw [Ne, List.set_eq_nil_iff]
    exact Text.splitOn_ne_nil '|' row
  rw [withOpcode, Text.splitOn_join hne hbars, List.map_set]

/-- With another cell in its opcode column, a row that can be read is read to the same variant but
for the opcode, or it is refused with that cell. -/
theorem readRow_withOpcode {cell row mnemonic : Text} {location? : Option Location}
    {variant : Variant} (hbar : '|' ∉ cell)
    (hrow : readRow row mnemonic location? = .ok variant) :
    readRow (withOpcode cell row) mnemonic location? =
      (opcode (Text.trim cell) location?).map fun value => { variant with opcode := value } := by
  obtain ⟨modeCell, sample, opcodeCell, sizeCell, cyclesCell, hcells, -, hsize, hcycles, hmode,
    hmnemonic, hcycleMode, hofficial, hnote⟩ := readRow_eq_ok_iff.mp hrow
  have hcolumns : ((withOpcode cell row).splitOn '|').map Text.trim =
      [modeCell, sample, Text.trim cell, sizeCell, cyclesCell] := by
    rw [columns_withOpcode hbar, hcells]
    rfl
  cases hopcode : opcode (Text.trim cell) location? with
  | error fault =>
    simp only [readRow, hcolumns, hopcode]
    rfl
  | ok value =>
    refine readRow_eq_ok_iff.mpr ?_
    exact ⟨_, _, _, _, _, hcolumns, hopcode, hsize, hcycles, hmode, hmnemonic, hcycleMode,
      hofficial, hnote⟩

/-- With this cell in its opcode column, the row is accepted as one of this opcode. -/
def GivesOpcode (cell row mnemonic : Text) (location? : Option Location) (value : Int) : Prop :=
  ∃ variant, readRow (withOpcode cell row) mnemonic location? = .ok variant ∧ variant.opcode = value

theorem givesOpcode_iff {cell row mnemonic : Text} {location? : Option Location} (hbar : '|' ∉ cell)
    (hrow : ∃ variant, readRow row mnemonic location? = .ok variant) {value : Int} :
    GivesOpcode cell row mnemonic location? value ↔
      opcode (Text.trim cell) location? = .ok value := by
  obtain ⟨original, hrow⟩ := hrow
  rw [GivesOpcode, readRow_withOpcode hbar hrow]
  cases opcode (Text.trim cell) location? with
  | error fault => simp [Except.map]
  | ok byte => simp [Except.map]

end Listing

namespace Documents

/-- What the listing accepts as an opcode cell is what the reference accepts behind one dollar sign.
So the two documents agree on a cell exactly if it has one dollar sign in front or if the reference
refuses it as well. -/
theorem opcode_cells_agree_iff {cell row mnemonic : Text} {location? other? : Option Location}
    (hbar : '|' ∉ cell)
    (hrow : ∃ variant, Listing.readRow row mnemonic location? = .ok variant) :
    (∀ value, Listing.GivesOpcode cell row mnemonic location? value ↔
        OneDollar (Text.trim cell) ∧ Reference.opcode cell other? = .ok value) ∧
      ((∀ value, Reference.opcode cell other? = .ok value ↔
          Listing.GivesOpcode cell row mnemonic location? value) ↔
        OneDollar (Text.trim cell) ∨ ∀ value, Reference.opcode cell other? ≠ .ok value) := by
  have hgives (value : Int) : Listing.GivesOpcode cell row mnemonic location? value ↔
      OneDollar (Text.trim cell) ∧ Reference.opcode cell other? = .ok value :=
    (Listing.givesOpcode_iff hbar hrow).trans Listing.opcode_trim_eq_ok_iff
  refine ⟨hgives, ?_⟩
  simp only [hgives]
  by_cases hdollar : OneDollar (Text.trim cell)
  · simp [hdollar]
  · simp [hdollar]

/-- A row that the listing accepts. -/
def immediateRow : Text := "Immediate | AAC #arg | $0B | 2 | 2"

/-- Behind its dollar sign, a cell may have all that is read as a hexadecimal number. -/
theorem markedDigits_agree :
    '|' ∉ "$0x6_9".toList ∧
      (∃ variant, Listing.readRow immediateRow "AAC" none = .ok variant) ∧
        Reference.opcode "$0x6_9" none = .ok 0x69 ∧
          Listing.GivesOpcode "$0x6_9" immediateRow "AAC" none 0x69 := by
  have hbar : '|' ∉ "$0x6_9".toList := by decide
  have hrow : ∃ variant, Listing.readRow immediateRow "AAC" none = .ok variant := ⟨_, rfl⟩
  have hdollar : OneDollar (Text.trim "$0x6_9".toList) := ⟨_, rfl, by decide⟩
  have hreference : Reference.opcode "$0x6_9" none = .ok 0x69 := rfl
  obtain ⟨hgives, -⟩ := opcode_cells_agree_iff hbar hrow
  exact ⟨hbar, hrow, hreference, (hgives 0x69).mpr ⟨hdollar, hreference⟩⟩

/-- The reference reads a byte without a dollar sign and behind two of them, and the listing refuses
either cell. -/
theorem unmarkedDigits_disagree :
    (∃ variant, Listing.readRow immediateRow "AAC" none = .ok variant) ∧
      Reference.opcode "69" none = .ok 0x69 ∧
      Listing.readRow (Listing.withOpcode "69" immediateRow) "AAC" none =
        .error ⟨.malformed "opcode" "69", none⟩ ∧
      Reference.opcode "$$69" none = .ok 0x69 ∧
      Listing.readRow (Listing.withOpcode "$$69" immediateRow) "AAC" none =
        .error ⟨.malformed "opcode" "$$69", none⟩ :=
  ⟨⟨_, rfl⟩, rfl, rfl, rfl, rfl⟩

end Documents

end OpcodeAtlas
