import OpcodeAtlas.Text.Basic

namespace OpcodeAtlas

/-- The characters that end a line of a document, each by itself. -/
def isLineBreak (c : Char) : Bool :=
  let code := c.toNat
  decide ((0x0A ≤ code ∧ code ≤ 0x0D) ∨ (0x1C ≤ code ∧ code ≤ 0x1E) ∨ code = 0x85 ∨
    code = 0x2028 ∨ code = 0x2029)

namespace Text

/-- The lines of a document. A carriage return and the line feed behind it end one line together,
    and nothing follows the last line break. -/
def lines : Text → List Text
  | [] => []
  | '\r' :: '\n' :: rest => [] :: lines rest
  | c :: rest =>
    if isLineBreak c then [] :: lines rest
    else match lines rest with
      | [] => [[c]]
      | line :: more => (c :: line) :: more

end Text

end OpcodeAtlas
