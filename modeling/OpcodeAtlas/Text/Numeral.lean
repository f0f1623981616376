import OpcodeAtlas.Text.Blank
import OpcodeAtlas.Text.Digit

namespace OpcodeAtlas

/-- The two notations in which the documents write numbers. -/
inductive Radix where
  | decimal
  | hexadecimal
deriving DecidableEq, Repr

namespace Radix

def base : Radix → Nat
  | decimal => 10
  | hexadecimal => 16

/-- A decimal numeral of more digits is refused. Hexadecimal numerals have no limit. -/
def digitLimit? : Radix → Option Nat
  | decimal => some 4300
  | hexadecimal => none

end Radix

namespace Numeral

/-- Padding around a numeral: a blank that does not separate information. -/
def isPadding (c : Char) : Bool :=
  isBlank c && !decide (0x1C ≤ c.toNat ∧ c.toNat ≤ 0x1F)

def valueOf (base : Nat) (digits : List Nat) : Nat :=
  digits.foldl (fun value digit => value * base + digit) 0

/-- The digits of a numeral without its sign. Single underscores may stand between digits. -/
def digits? (base : Nat) (text : Text) : Option (List Nat) := do
  let groups ← (text.splitOn '_').mapM fun group =>
    if group.isEmpty then none else group.mapM (digitValue? base)
  pure groups.flatten

/-- A hexadecimal numeral may begin with a zero and an x, and an underscore may follow these. -/
def dropMark : Radix → Text → Text
  | .hexadecimal, lead :: mark :: rest =>
    if decimalValue? lead = some 0 ∧ (mark = 'x' ∨ mark = 'X') then
      match rest with
      | '_' :: digits => digits
      | digits => digits
    else lead :: mark :: rest
  | _, text => text

/-- A numeral without sign and padding. -/
def readNat? (radix : Radix) (text : Text) : Option Nat := do
  let digits ← digits? radix.base (dropMark radix text)
  if radix.digitLimit?.any (· < digits.length) then none
  else pure (valueOf radix.base digits)

/-- A numeral with padding around it and at most one sign in front. -/
def readInt? (radix : Radix) (text : Text) : Option Int :=
  match text.strip isPadding with
  | '-' :: rest => (readNat? radix rest).map fun value => -(value : Int)
  | '+' :: rest => (readNat? radix rest).map Int.ofNat
  | rest => (readNat? radix rest).map Int.ofNat

def signed (value : Int) (magnitude : Text) : Text :=
  if value < 0 then '-' :: magnitude else magnitude

def ofNat (value : Nat) : Text :=
  Nat.toDigits 10 value

def ofInt (value : Int) : Text :=
  signed value (ofNat value.natAbs)

/-- Upper-case hexadecimal of at least two places, where a sign counts as a place. -/
def byteHex (value : Int) : Text :=
  let digits : Text := (Nat.toDigits 16 value.natAbs).map Char.toUpper
  signed value (digits.padLeft '0' (if value < 0 then 1 else 2))

/-- A byte as the documents write it, behind a dollar sign. -/
def dollarHex (value : Int) : Text :=
  '$' :: byteHex value

/-- Decimal with a comma before each group of three digits. -/
def grouped (value : Nat) : Text :=
  (Text.join [','] (Text.chunks 3 (ofNat value).reverse)).reverse

end Numeral

end OpcodeAtlas
