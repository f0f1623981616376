import OpcodeAtlas.Proofs.Text.Pieces
import OpcodeAtlas.Proofs.Text.Trim
import OpcodeAtlas.Text.Numeral

namespace OpcodeAtlas.Numeral

/-- A hexadecimal digit, as a capital letter or a small one if it is a letter. -/
def hexDigit (upper : Bool) (value : Nat) : Char :=
  if upper then (Nat.digitChar value).toUpper else Nat.digitChar value

theorem digitValue?_hexDigit (upper : Bool) {value : Nat} (hvalue : value < 16) :
    digitValue? 16 (hexDigit upper value) = some value := by
  have hall : ∀ upper, ∀ digit : Fin 16,
      digitValue? 16 (hexDigit upper digit) = some digit.val := by
    decide
  exact hall upper ⟨value, hvalue⟩

theorem isAlphanum_hexDigit (upper : Bool) {value : Nat} (hvalue : value < 16) :
    (hexDigit upper value).isAlphanum = true := by
  have hall : ∀ upper, ∀ digit : Fin 16, (hexDigit upper digit).isAlphanum = true := by
    decide
  exact hall upper ⟨value, hvalue⟩

theorem digitValue?_of_isDigit {c : Char} (hc : c.isDigit = true) :
    digitValue? 10 c = some (c.toNat - 48) := by
  have hrange : 48 ≤ c.toNat ∧ c.toNat ≤ 57 := Char.isDigit_iff_toNat.mp hc
  have hdecimal : decimalValue? c = some (c.toNat - 48) := by
    rw [decimalValue?, if_pos hrange]
  rw [digitValue?, if_neg (by omega), if_neg (by omega), hdecimal]
  simp
  omega

/-- Characters that have a value, at least one of them, are digits in one group. -/
theorem digits?_eq_some {base : Nat} {value : Char → Nat} {text : Text} (hne : text ≠ [])
    (hvalue : ∀ c ∈ text, digitValue? base c = some (value c)) :
    digits? base text = some (text.map value) := by
  have hunderscore : '_' ∉ text := by
    intro hmem
    have hnone : digitValue? base '_' = none := rfl
    rw [hvalue _ hmem] at hnone
    cases hnone
  have hgroup : text.mapM (digitValue? base) = some (text.map value) := by
    clear hne hunderscore
    induction text with
    | nil => rfl
    | cons c rest ih =>
      obtain ⟨hc, hrest⟩ := List.forall_mem_cons.mp hvalue
      rw [List.mapM_cons, hc, ih hrest]
      rfl
  simp [digits?, Text.splitOn_of_not_mem hunderscore, hne, hgroup]

theorem valueOf_decimal (digits : Text) :
    valueOf 10 (digits.map fun c => c.toNat - 48) = Nat.ofDigitChars 10 digits 0 := by
  rw [valueOf, List.foldl_map, Nat.ofDigitChars_eq_foldl]
  simp only [Nat.mul_comm]
  rfl

/-- A mark is no digit. -/
theorem dropMark_eq_self {radix : Radix} {digits : Text} (hsmall : 'x' ∉ digits)
    (hcapital : 'X' ∉ digits) : dropMark radix digits = digits := by
  unfold dropMark
  split
  · next lead mark rest =>
    refine if_neg ?_
    rintro ⟨-, rfl | rfl⟩
    · exact hsmall (by simp)
    · exact hcapital (by simp)
  · rfl

/-- Digits are read as their value, unless there are too many of them. -/
theorem readInt?_of_digits (radix : Radix) {value : Char → Nat} {digits : Text} (hne : digits ≠ [])
    (hvalue : ∀ c ∈ digits, digitValue? radix.base c = some (value c))
    (hblank : ∀ c ∈ digits, isBlank c = false) :
    readInt? radix digits =
      if radix.digitLimit?.any (· < digits.length) then none
      else some ((valueOf radix.base (digits.map value) : Nat) : Int) := by
  have hnot {mark : Char} (hmark : digitValue? radix.base mark = none) : mark ∉ digits := by
    intro hmem
    rw [hvalue mark hmem] at hmark
    cases hmark
  have hstrip : digits.strip isPadding = digits := by
    refine Text.strip_eq_self_of_forall fun c hc => ?_
    rw [isPadding, hblank c hc, Bool.false_and]
  have hread : readNat? radix digits =
      if radix.digitLimit?.any (· < digits.length) then none
      else some (valueOf radix.base (digits.map value)) := by
    have hmark : dropMark radix digits = digits :=
      dropMark_eq_self (hnot (by cases radix <;> rfl)) (hnot (by cases radix <;> rfl))
    simp [readNat?, hmark, digits?_eq_some hne hvalue]
  rw [readInt?, hstrip]
  split
  · exact absurd List.mem_cons_self (hnot rfl)
  · exact absurd List.mem_cons_self (hnot rfl)
  · rw [hread]
    split <;> rfl

/-- A decimal numeral is read as its value. -/
theorem readInt?_decimal {digits : Text} (hne : digits ≠ [])
    (hdigits : ∀ c ∈ digits, c.isDigit = true) (hlimit : digits.length ≤ 4300) :
    readInt? .decimal digits = some ((Nat.ofDigitChars 10 digits 0 : Nat) : Int) := by
  have hread := readInt?_of_digits .decimal hne (fun c hc => digitValue?_of_isDigit (hdigits c hc))
    fun c hc => Text.isBlank_of_isAlphanum (Text.isAlphanum_of_isDigit (hdigits c hc))
  rw [hread, if_neg (by simpa [Radix.digitLimit?] using hlimit)]
  exact congrArg (fun value : Nat => some (value : Int)) (valueOf_decimal digits)

/-- Two hexadecimal digits are read as a byte. -/
theorem readInt?_hexadecimal {high low : Char} {highValue lowValue : Nat}
    (hhigh : digitValue? 16 high = some highValue) (hlow : digitValue? 16 low = some lowValue)
    (hhighBlank : isBlank high = false) (hlowBlank : isBlank low = false) :
    readInt? .hexadecimal [high, low] = some ((16 * highValue + lowValue : Nat) : Int) := by
  have hread := @readInt?_of_digits .hexadecimal (fun c => (digitValue? 16 c).getD 0) [high, low]
    (List.cons_ne_nil _ _) (by simp [Radix.base, hhigh, hlow]) (by simp [hhighBlank, hlowBlank])
  rw [hread]
  simp [Radix.digitLimit?, Radix.base, valueOf, hhigh, hlow, Nat.mul_comm]

/-- A character that is neither a digit nor an underscore begins no numeral. -/
theorem digits?_cons_eq_none {base : Nat} {c : Char} (hmark : c ≠ '_')
    (hc : digitValue? base c = none) (rest : Text) : digits? base (c :: rest) = none := by
  obtain ⟨piece, others, hpieces⟩ := List.exists_cons_of_ne_nil (Text.splitOn_ne_nil '_' rest)
  rw [digits?, Text.splitOn, if_neg hmark, hpieces, List.modifyHead_cons, List.mapM_cons]
  simp [hc]

/-- A numeral does not begin with a dollar sign. -/
theorem readInt?_dollar (rest : Text) : readInt? .hexadecimal ('$' :: rest) = none := by
  obtain ⟨more, hstrip⟩ := List.head?_eq_some_iff.mp
    (Text.head?_strip (p := isPadding) (c := '$') (by decide) rest)
  have hmark : dropMark .hexadecimal ('$' :: more) = '$' :: more := by
    have hzero : decimalValue? '$' ≠ some 0 := by decide
    cases more <;> simp [dropMark, hzero]
  have hdigits : digits? 16 ('$' :: more) = none := digits?_cons_eq_none (by decide) rfl more
  simp [readInt?, hstrip, readNat?, hmark, Radix.base, hdigits]

end OpcodeAtlas.Numeral
