import OpcodeAtlas.Text.Numeral

namespace OpcodeAtlas

/-- A place in a source document. -/
structure Location where
  /-- The label of the document, or the address it was fetched from. -/
  document : Text
  /-- The mnemonic or the title of the section, where one is known. -/
  part? : Option Text := none
  /-- The row of the section's table, counted from one. -/
  row? : Option Int := none
deriving DecidableEq, Repr

namespace Location

def atRow (location : Location) (row : Int) : Location :=
  { location with row? := some row }

/-- The known parts, from the document down, with colons between them. -/
def text (location : Location) : Text :=
  let row? := location.row?.map fun row => "row " ++ Numeral.ofInt row
  Text.join [':'] (location.document :: location.part?.toList ++ row?.toList)

theorem text_of_part (document part : Text) :
    ({ document, part? := some part } : Location).text = document ++ ':' :: part := by
  simp [text, Text.join, List.intercalate]

theorem text_atRow (document part : Text) (row : Nat) :
    (({ document, part? := some part } : Location).atRow row).text =
      document ++ ':' :: (part ++ ':' :: ("row " ++ Numeral.ofNat row)) := by
  have hrow : Numeral.ofInt (row : Int) = Numeral.ofNat row := by
    rw [Numeral.ofInt, Numeral.signed, if_neg (Int.not_lt.mpr (Int.natCast_nonneg row)),
      Int.natAbs_natCast]
  simp [text, atRow, Text.join, List.intercalate, hrow]

end Location

end OpcodeAtlas
