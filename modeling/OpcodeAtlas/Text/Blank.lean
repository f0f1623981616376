import OpcodeAtlas.Text.Basic

namespace OpcodeAtlas

/-- White space: the ASCII controls that move the print position or separate information, the
    space, and every space, line and paragraph separator beyond ASCII. The zero-width space and
    the byte order mark are not among them. -/
def isBlank (c : Char) : Bool :=
  let code := c.toNat
  decide ((0x09 ≤ code ∧ code ≤ 0x0D) ∨ (0x1C ≤ code ∧ code ≤ 0x20) ∨ code = 0x85 ∨ code = 0xA0 ∨
    code = 0x1680 ∨ (0x2000 ≤ code ∧ code ≤ 0x200A) ∨ code = 0x2028 ∨ code = 0x2029 ∨
    code = 0x202F ∨ code = 0x205F ∨ code = 0x3000)

namespace Text

def dropTrailing (p : Char → Bool) (text : Text) : Text :=
  (text.reverse.dropWhile p).reverse

/-- The text without the characters of the class at either end. -/
def strip (p : Char → Bool) (text : Text) : Text :=
  dropTrailing p (text.dropWhile p)

/-- The text without the blanks at either end. -/
def trim (text : Text) : Text :=
  strip isBlank text

def isAllBlank (text : Text) : Bool :=
  text.all isBlank

/-- The longest stretches without a blank, in order. -/
def words : Text → List Text
  | [] => []
  | c :: rest =>
    if isBlank c then words rest
    else if rest.head?.any (!isBlank ·) then (words rest).modifyHead (c :: ·)
    else [c] :: words rest

/-- The words with one space between each two of them. -/
def collapse (text : Text) : Text :=
  join [' '] (words text)

/-- The words run together, which leaves out exactly the blanks. -/
def squeeze (text : Text) : Text :=
  (words text).flatten

end Text

end OpcodeAtlas
