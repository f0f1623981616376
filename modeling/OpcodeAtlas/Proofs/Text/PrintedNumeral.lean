import OpcodeAtlas.Proofs.Text.Numeral

namespace OpcodeAtlas.Numeral

/-- Digits of a base, perhaps with zeros in front, and the number that they stand for. -/
structure Spells (base : Nat) (digits : Text) (value : Nat) : Prop where
  ne_nil : digits ≠ []
  isSome_digit : ∀ c ∈ digits, (digitValue? base c).isSome = true
  valueOf_eq : valueOf base (digits.map fun c => (digitValue? base c).getD 0) = value

namespace Spells

variable {base value : Nat} {digits : Text}

theorem digits?_eq (hspells : Spells base digits value) :
    digits? base digits = some (digits.map fun c => (digitValue? base c).getD 0) := by
  refine digits?_eq_some hspells.ne_nil fun c hc => ?_
  obtain ⟨digit, hdigit⟩ := Option.isSome_iff_exists.mp (hspells.isSome_digit c hc)
  rw [hdigit, Option.getD_some]

theorem singleton {c : Char} (hc : digitValue? base c = some value) : Spells base [c] value := by
  refine ⟨List.cons_ne_nil _ _, ?_, ?_⟩
  · simp [hc]
  · simp [valueOf, hc]

theorem append_digit (hspells : Spells base digits value) {c : Char} {digit : Nat}
    (hc : digitValue? base c = some digit) :
    Spells base (digits ++ [c]) (value * base + digit) := by
  obtain ⟨-, hdigits, hvalue⟩ := hspells
  refine ⟨by simp, ?_, ?_⟩
  · intro d hd
    obtain hd | hd := List.mem_append.mp hd
    · exact hdigits d hd
    · rw [List.mem_singleton.mp hd, hc, Option.isSome_some]
  · rw [valueOf] at hvalue
    rw [valueOf, List.map_append, List.foldl_append, hvalue]
    simp [hc]

/-- Zeros in front do not count. -/
theorem zeros_append (hspells : Spells base digits value) (hzero : digitValue? base '0' = some 0)
    (zeros : Nat) : Spells base (List.replicate zeros '0' ++ digits) value := by
  obtain ⟨hne, hdigits, hvalue⟩ := hspells
  refine ⟨by simp [hne], ?_, ?_⟩
  · intro c hc
    obtain hc | hc := List.mem_append.mp hc
    · rw [List.eq_of_mem_replicate hc, hzero, Option.isSome_some]
    · exact hdigits c hc
  · have hskip : (List.replicate zeros 0).foldl (fun value digit => value * base + digit) 0 = 0 := by
      induction zeros with
      | zero => rfl
      | succ zeros ih => simpa [List.replicate_succ] using ih
    rw [valueOf] at hvalue
    rw [valueOf, List.map_append, List.foldl_append, List.map_replicate, hzero, Option.getD_some,
      hskip, hvalue]

theorem not_mem (hspells : Spells base digits value) {c : Char} (hc : digitValue? base c = none) :
    c ∉ digits := by
  intro hmem
  have hsome := hspells.isSome_digit c hmem
  rw [hc] at hsome
  cases hsome

end Spells

/-- The digits that a number is printed in spell it, also when their letters are printed as
capitals. -/
theorem spells_toDigits {base : Nat} (hbase : 1 < base) {mark : Char → Char}
    (hmark : ∀ digit < base, digitValue? base (mark (Nat.digitChar digit)) = some digit)
    (value : Nat) : Spells base ((Nat.toDigits base value).map mark) value := by
  induction value using Nat.strongRecOn with
  | ind value ih =>
    rw [Nat.toDigits_eq_if hbase]
    split
    · next hsmall => exact Spells.singleton (hmark value hsmall)
    · next hlarge =>
      have hpositive : 0 < value := by omega
      have hlast := hmark (value % base) (Nat.mod_lt _ (by omega))
      have hspells := (ih (value / base) (Nat.div_lt_self hpositive hbase)).append_digit hlast
      rw [Nat.div_add_mod'] at hspells
      rwa [List.map_append, List.map_singleton]

/-- A numeral without any limit to its length: digits of the base behind at most a minus sign. -/
def readSigned? (base : Nat) : Text → Option Int
  | '-' :: digits => (digits? base digits).map fun values => -(valueOf base values : Int)
  | digits => (digits? base digits).map fun values => (valueOf base values : Int)

theorem digitValue?_minus (base : Nat) : digitValue? base '-' = none :=
  rfl

/-- The sign that is printed is read back. -/
theorem readSigned?_signed {base : Nat} {digits : Text} {value : Int}
    (hspells : Spells base digits value.natAbs) :
    readSigned? base (signed value digits) = some value := by
  unfold signed
  split
  · next hneg =>
    rw [readSigned?, hspells.digits?_eq, Option.map_some, hspells.valueOf_eq]
    congr 1
    omega
  · next hnonneg =>
    have hplain : readSigned? base digits =
        (digits? base digits).map fun values => (valueOf base values : Int) := by
      unfold readSigned?
      split
      · next rest => exact absurd List.mem_cons_self (hspells.not_mem (digitValue?_minus base))
      · rfl
    rw [hplain, hspells.digits?_eq, Option.map_some, hspells.valueOf_eq]
    congr 1
    omega

theorem not_mem_signed {base : Nat} {digits : Text} {value : Int}
    (hspells : Spells base digits value.natAbs) {c : Char} (hsign : c ≠ '-')
    (hc : digitValue? base c = none) : c ∉ signed value digits := by
  have hdigits := hspells.not_mem hc
  unfold signed
  split
  · simp [hsign, hdigits]
  · exact hdigits

theorem spells_ofNat (value : Nat) : Spells 10 (ofNat value) value := by
  have hmark : ∀ digit < 10, digitValue? 10 (id (Nat.digitChar digit)) = some digit := by
    decide
  simpa [ofNat] using spells_toDigits (by decide) hmark value

theorem spells_hex (value width : Nat) :
    Spells 16 (Text.padLeft '0' width ((Nat.toDigits 16 value).map Char.toUpper)) value := by
  have hmark : ∀ digit < 16, digitValue? 16 (Nat.digitChar digit).toUpper = some digit :=
    fun digit hdigit => digitValue?_hexDigit true hdigit
  exact (spells_toDigits (by decide) hmark value).zeros_append rfl _

theorem readSigned?_ofInt (value : Int) : readSigned? 10 (ofInt value) = some value :=
  readSigned?_signed (spells_ofNat _)

theorem readSigned?_ofNat (value : Nat) : readSigned? 10 (ofNat value) = some (value : Int) :=
  readSigned?_ofInt value

theorem readSigned?_byteHex (value : Int) : readSigned? 16 (byteHex value) = some value :=
  readSigned?_signed (spells_hex _ _)

theorem not_mem_ofInt {c : Char} (hsign : c ≠ '-') (hc : digitValue? 10 c = none) (value : Int) :
    c ∉ ofInt value :=
  not_mem_signed (spells_ofNat _) hsign hc

theorem not_mem_byteHex {c : Char} (hsign : c ≠ '-') (hc : digitValue? 16 c = none) (value : Int) :
    c ∉ byteHex value :=
  not_mem_signed (spells_hex _ _) hsign hc

end OpcodeAtlas.Numeral
