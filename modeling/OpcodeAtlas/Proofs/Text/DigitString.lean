import OpcodeAtlas.Proofs.Text.Numeral
import Mathlib.Data.Nat.Digits.Defs

namespace OpcodeAtlas

/-- The digits of ASCII. Letters may be small or capital. -/
def Radix.digits : Radix → Text
  | .decimal => "0123456789"
  | .hexadecimal => "0123456789abcdefABCDEF"

namespace Numeral

/-- What a digit stands for in the last place. -/
def digitWeight (c : Char) : Nat :=
  "0123456789abcdef".toList.idxOf c.toLower

/-- One digit or more, and nothing else. -/
structure DigitString (radix : Radix) where
  text : Text
  ne_nil : text ≠ []
  subset_digits : text ⊆ radix.digits

/-- The number that digits stand for by their places, from the last one on. -/
def DigitString.value {radix : Radix} (digits : DigitString radix) : Nat :=
  Nat.ofDigits radix.base (digits.text.reverse.map digitWeight)

/-- The digits are gone through from the front, and each step raises those before it by a place. -/
theorem valueOf_eq_ofDigits (base : Nat) (values : List Nat) :
    valueOf base values = Nat.ofDigits base values.reverse := by
  rw [valueOf, Nat.ofDigits_eq_foldr, List.foldr_reverse]
  simp only [Nat.cast_id, Nat.mul_comm, Nat.add_comm]

theorem digitValue?_of_mem_digits {radix : Radix} {c : Char} (hc : c ∈ radix.digits) :
    digitValue? radix.base c = some (digitWeight c) := by
  have hall : radix.digits.all (fun d => digitValue? radix.base d == some (digitWeight d)) = true := by
    cases radix <;> decide
  exact beq_iff_eq.mp (List.all_eq_true.mp hall c hc)

theorem isBlank_of_mem_digits {radix : Radix} {c : Char} (hc : c ∈ radix.digits) :
    isBlank c = false := by
  have hall : radix.digits.all (!isBlank ·) = true := by
    cases radix <;> decide
  simpa using List.all_eq_true.mp hall c hc

namespace DigitString

variable {radix : Radix} (digits : DigitString radix)

theorem isBlank_of_mem {c : Char} (hc : c ∈ digits.text) : isBlank c = false :=
  isBlank_of_mem_digits (digits.subset_digits hc)

theorem trim_dollar : Text.trim ('$' :: digits.text) = '$' :: digits.text := by
  refine Text.strip_eq_self_of_forall fun c hc => ?_
  obtain rfl | hc := List.mem_cons.mp hc
  · decide
  · exact digits.isBlank_of_mem hc

/-- Zeros in front count for the limit, and for nothing else. -/
theorem readInt?_text :
    readInt? radix digits.text =
      if radix.digitLimit?.any (· < digits.text.length) then none else some (digits.value : Int) := by
  rw [readInt?_of_digits radix digits.ne_nil
    (fun c hc => digitValue?_of_mem_digits (digits.subset_digits hc)) fun _ => digits.isBlank_of_mem,
    valueOf_eq_ofDigits, ← List.map_reverse, value]

end DigitString

end Numeral

end OpcodeAtlas
