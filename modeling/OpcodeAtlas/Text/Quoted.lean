import OpcodeAtlas.Text.Basic
import OpcodeAtlas.Text.Printable

namespace OpcodeAtlas.Text

/-- The code in lower-case hexadecimal, filled up with zeros. -/
def hexCode (width code : Nat) : Text :=
  padLeft '0' width (Nat.toDigits 16 code)

/-- A character as it stands between quotes. What shows nothing by itself is written as the
    shortest of the escapes with two, four or eight hexadecimal places. -/
def escapeChar (quote c : Char) : Text :=
  let code := c.toNat
  if c = quote ∨ c = '\\' then ['\\', c]
  else if c = '\n' then ['\\', 'n']
  else if c = '\r' then ['\\', 'r']
  else if c = '\t' then ['\\', 't']
  else if isPrintable c then [c]
  else if code < 0x100 then '\\' :: 'x' :: hexCode 2 code
  else if code < 0x10000 then '\\' :: 'u' :: hexCode 4 code
  else '\\' :: 'U' :: hexCode 8 code

/-- Single quotes, unless the text has one of these and no double quote. -/
def quoteFor (text : Text) : Char :=
  if text.contains '\'' && !text.contains '"' then '"' else '\''

/-- The text between quotes, the way messages cite a document. -/
def quoted (text : Text) : Text :=
  let quote := quoteFor text
  [quote] ++ text.flatMap (escapeChar quote) ++ [quote]

end OpcodeAtlas.Text
