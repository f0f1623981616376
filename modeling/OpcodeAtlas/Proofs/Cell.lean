import OpcodeAtlas.Cell
import OpcodeAtlas.Proofs.AddressingMode
import OpcodeAtlas.Proofs.Outcome
import OpcodeAtlas.Proofs.Text.Numeral

namespace OpcodeAtlas

/-- A reader makes no other use of the place it is told than to name it in its fault. -/
def Located {α : Type} (read : Location → Except Fault α) : Prop :=
  ∃ outcome : Except Cause α, ∀ location,
    read location = outcome.mapError fun cause => ⟨cause, some location⟩

namespace Located

variable {α β : Type}

theorem ok (value : α) : Located fun _ => .ok value :=
  ⟨.ok value, fun _ => rfl⟩

theorem error (cause : Cause) :
    Located fun location => (.error ⟨cause, some location⟩ : Except Fault α) :=
  ⟨.error cause, fun _ => rfl⟩

theorem bind {read : Location → Except Fault α} {next : α → Location → Except Fault β}
    (hread : Located read) (hnext : ∀ value, Located (next value)) :
    Located fun location => read location >>= fun value => next value location := by
  obtain ⟨outcome, houtcome⟩ := hread
  have hfirst location := congrArg (· >>= fun value => next value location) (houtcome location)
  cases outcome with
  | error cause => exact ⟨.error cause, hfirst⟩
  | ok value =>
    obtain ⟨last, hlast⟩ := hnext value
    exact ⟨last, fun location => (hfirst location).trans (hlast location)⟩

variable {read : Location → Except Fault α}

theorem location?_eq (hread : Located read) {location : Location} {fault : Fault}
    (herror : read location = .error fault) : fault.location? = some location := by
  obtain ⟨outcome, houtcome⟩ := hread
  rw [houtcome] at herror
  cases outcome with
  | error cause => rw [← Except.error.inj herror]
  | ok value => cases herror

/-- What can be read is read alike wherever it stands. -/
theorem ok_anywhere (hread : Located read) {location : Location} {value : α}
    (hok : read location = .ok value) (other : Location) : read other = .ok value := by
  obtain ⟨outcome, houtcome⟩ := hread
  rw [houtcome] at hok ⊢
  cases outcome with
  | error cause => cases hok
  | ok _ => exact hok

end Located

namespace Cell

open AddressingMode (canonicalLabel canonicalMark?)

theorem mode_located (label : Text) : Located fun location => mode label (some location) := by
  unfold mode
  cases AddressingMode.ofName? (AddressingMode.canonicalLabel label) with
  | none => exact .error _
  | some mode => exact .ok mode

/-- Spaces around and inside of a label make no difference. -/
theorem mode_alike {label other : Text} (htext : Text.collapse label = Text.collapse other)
    (location? : Option Location) : Alike (mode label location?) (mode other location?) := by
  have hcanonical : AddressingMode.canonicalLabel label = AddressingMode.canonicalLabel other := by
    rw [← AddressingMode.canonicalLabel_collapse, htext, AddressingMode.canonicalLabel_collapse]
  simp only [mode, hcanonical]
  cases AddressingMode.ofName? (AddressingMode.canonicalLabel other) with
  | none => exact .error rfl rfl
  | some mode => exact .ok mode

/-- The canonical form of a label rewrites each character by itself. So it can be put together from
the forms of its parts, it is its own canonical form, and it is read as the label is: both name one
mode, or both are refused as labels. -/
theorem canonical_form_rewrites (label : Text) (location? : Option Location) :
    canonicalLabel label = label.filterMap canonicalMark? ∧
      (∀ first second,
        canonicalLabel (first ++ second) = canonicalLabel first ++ canonicalLabel second) ∧
      canonicalLabel (canonicalLabel label) = canonicalLabel label ∧
      ((∃ mode, Cell.mode label location? = .ok mode ∧
          Cell.mode (canonicalLabel label) location? = .ok mode) ∨
        ∃ fault other, Cell.mode label location? = .error fault ∧
          Cell.mode (canonicalLabel label) location? = .error other ∧
          fault.kind = .label ∧ other.kind = .label) := by
  have hidem := AddressingMode.canonicalLabel_canonicalLabel label
  refine ⟨AddressingMode.canonicalLabel_eq_filterMap label, AddressingMode.canonicalLabel_append, hidem,
    ?_⟩
  unfold Cell.mode
  rw [hidem]
  cases AddressingMode.ofName? (canonicalLabel label) with
  | some mode => exact Or.inl ⟨mode, rfl, rfl⟩
  | none => exact Or.inr ⟨_, _, rfl, rfl, rfl, rfl⟩

theorem byte_located (cell digits : Text) :
    Located fun location => byte cell digits (some location) := by
  unfold byte
  cases Numeral.readInt? .hexadecimal digits with
  | none => exact .error _
  | some value =>
    by_cases hrange : 0 ≤ value ∧ value ≤ 255
    · simp only [if_pos hrange]
      exact .ok value
    · simp only [if_neg hrange]
      exact .error _

theorem byte_eq_ok_iff {cell digits : Text} {location? : Option Location} {value : Int} :
    byte cell digits location? = .ok value ↔
      Numeral.readInt? .hexadecimal digits = some value ∧ 0 ≤ value ∧ value ≤ 255 := by
  unfold byte
  split
  · next hnone => simp [hnone]
  · next read hread =>
    rw [hread, Option.some.injEq]
    split
    · next hrange =>
      rw [Except.ok.injEq]
      exact ⟨fun heq => ⟨heq, heq ▸ hrange⟩, fun heq => heq.1⟩
    · next hrange => exact iff_of_false nofun fun heq => hrange (heq.1 ▸ heq.2)

/-- The two hexadecimal digits of a byte are read as the byte. -/
theorem byte_hexDigits (cell : Text) (value : Fin 256) (upperHigh upperLow : Bool)
    (location? : Option Location) :
    byte cell [Numeral.hexDigit upperHigh (value.val / 16),
      Numeral.hexDigit upperLow (value.val % 16)] location? = .ok (value.val : Int) := by
  have hhigh : value.val / 16 < 16 := by omega
  have hlow : value.val % 16 < 16 := by omega
  have hread := Numeral.readInt?_hexadecimal
    (Numeral.digitValue?_hexDigit upperHigh hhigh) (Numeral.digitValue?_hexDigit upperLow hlow)
    (Text.isBlank_of_isAlphanum (Numeral.isAlphanum_hexDigit upperHigh hhigh))
    (Text.isBlank_of_isAlphanum (Numeral.isAlphanum_hexDigit upperLow hlow))
  rw [Nat.div_add_mod] at hread
  simp only [byte, hread]
  exact if_pos (by omega)

theorem number_eq_ok_iff {what cell digits : Text} {location? : Option Location} {count : Int} :
    number what cell digits location? = .ok count ↔
      Numeral.readInt? .decimal digits = some count := by
  unfold number
  split
  · next hread => simp [hread]
  · next value hread => simp [hread]

theorem number_located (what cell digits : Text) :
    Located fun location => number what cell digits (some location) := by
  unfold number
  cases Numeral.readInt? .decimal digits with
  | none => exact .error _
  | some value => exact .ok value

end Cell

end OpcodeAtlas
