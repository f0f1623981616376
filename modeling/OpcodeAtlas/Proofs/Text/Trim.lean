import OpcodeAtlas.Text.Blank
import Mathlib.Data.List.DropRight

namespace OpcodeAtlas.Text

variable {p : Char → Bool}

theorem strip_eq_rdropWhile (p : Char → Bool) (text : Text) :
    strip p text = (text.dropWhile p).rdropWhile p :=
  rfl

/-- Nothing is left exactly of a text that the class covers. -/
theorem strip_eq_nil_iff {text : Text} : strip p text = [] ↔ ∀ c ∈ text, p c = true := by
  rw [strip_eq_rdropWhile, List.rdropWhile_eq_nil_iff]
  constructor
  · intro hall c hc
    rw [← List.takeWhile_append_dropWhile (p := p) (l := text), List.mem_append] at hc
    obtain hc | hc := hc
    · exact List.mem_takeWhile_imp hc
    · exact hall c hc
  · intro hall c hc
    exact hall c ((List.dropWhile_subset p) hc)

/-- Characters of the class at either end make no difference. -/
theorem strip_append_append {left right : Text} (hleft : ∀ c ∈ left, p c = true)
    (hright : ∀ c ∈ right, p c = true) (text : Text) :
    strip p (left ++ text ++ right) = strip p text := by
  have htrailing : ∀ rest : Text, (rest ++ right).rdropWhile p = rest.rdropWhile p := by
    intro rest
    have hreverse : ∀ c ∈ right.reverse, p c = true := by
      simpa using hright
    rw [List.rdropWhile, List.rdropWhile, List.reverse_append,
      List.dropWhile_append_of_pos hreverse]
  rw [strip_eq_rdropWhile, strip_eq_rdropWhile, List.append_assoc,
    List.dropWhile_append_of_pos hleft, List.dropWhile_append]
  split
  · next hempty =>
    have hnil : text.dropWhile p = [] := by simpa using hempty
    have hright' : right.dropWhile p = [] := by simpa using hright
    rw [hnil, hright']
  · exact htrailing _

/-- A text that neither begins nor ends with a character of the class stays as it is. -/
theorem strip_eq_self {text : Text} (hfirst : ∀ c ∈ text.head?, p c = false)
    (hlast : ∀ c ∈ text.getLast?, p c = false) : strip p text = text := by
  have hdrop : text.dropWhile p = text := by
    cases text with
    | nil => rfl
    | cons c rest => exact List.dropWhile_cons_of_neg (by simpa using hfirst c rfl)
  rw [strip_eq_rdropWhile, hdrop, List.rdropWhile_eq_self_iff]
  intro hne
  simpa using hlast _ (List.getLast?_eq_some_getLast hne)

/-- What a text begins with stays if the class does not cover it. -/
theorem head?_strip {p : Char → Bool} {c : Char} (hc : p c = false) (rest : Text) :
    (strip p (c :: rest)).head? = some c := by
  have hprefix := List.rdropWhile_prefix p (l := c :: rest)
  rw [strip_eq_rdropWhile, List.dropWhile_cons_of_neg (by simp [hc])]
  cases hkept : (c :: rest).rdropWhile p with
  | nil =>
    rw [List.rdropWhile_eq_nil_iff.mp hkept c List.mem_cons_self] at hc
    cases hc
  | cons d more =>
    rw [hkept, List.cons_prefix_cons] at hprefix
    rw [List.head?_cons, hprefix.1]

theorem strip_eq_self_of_forall {text : Text} (hnone : ∀ c ∈ text, p c = false) :
    strip p text = text :=
  strip_eq_self (fun c hc => hnone c (List.mem_of_mem_head? hc))
    (fun c hc => hnone c (List.mem_of_mem_getLast? hc))

private theorem dropWhile_append_cons {c : Char} (hc : p c = false) (before after : Text) :
    (before ++ c :: after).dropWhile p = before.dropWhile p ++ c :: after := by
  have hstop : (c :: after).dropWhile p = c :: after := List.dropWhile_cons_of_neg (by simp [hc])
  rw [List.dropWhile_append, hstop]
  split
  · next hempty => rw [List.isEmpty_iff.mp hempty, List.nil_append]
  · rfl

/-- Between two characters outside the class nothing is taken off. -/
theorem strip_between {first last : Char} (hfirst : p first = false) (hlast : p last = false)
    (before between after : Text) :
    strip p (before ++ first :: (between ++ last :: after)) =
      before.dropWhile p ++ first :: (between ++ last :: after.rdropWhile p) := by
  have hend : ∀ rest : Text,
      (rest ++ last :: after).rdropWhile p = rest ++ last :: after.rdropWhile p := by
    intro rest
    have hreverse : (rest ++ last :: after).reverse = after.reverse ++ last :: rest.reverse := by
      simp
    rw [List.rdropWhile, hreverse, dropWhile_append_cons hlast, List.rdropWhile]
    simp
  have hassoc := hend (before.dropWhile p ++ first :: between)
  rw [strip_eq_rdropWhile, dropWhile_append_cons hfirst]
  simpa using hassoc

/-- What is taken off lies at the two ends and belongs to the class. -/
theorem exists_eq_append_strip_append (p : Char → Bool) (text : Text) :
    ∃ left right, (∀ c ∈ left, p c = true) ∧ (∀ c ∈ right, p c = true) ∧
      text = left ++ strip p text ++ right := by
  refine ⟨text.takeWhile p, (text.dropWhile p).rtakeWhile p, fun c => List.mem_takeWhile_imp,
    fun c => List.mem_rtakeWhile_imp, ?_⟩
  rw [strip_eq_rdropWhile, List.append_assoc, List.rdropWhile_append_rtakeWhile,
    List.takeWhile_append_dropWhile]

/-- A second cut finds nothing to take off. -/
theorem strip_strip (p : Char → Bool) (text : Text) : strip p (strip p text) = strip p text := by
  obtain ⟨left, right, hleft, hright, htext⟩ := exists_eq_append_strip_append p text
  have hinner := strip_append_append hleft hright (strip p text)
  rw [← htext] at hinner
  exact hinner.symm

theorem trim_trim (text : Text) : trim (trim text) = trim text :=
  strip_strip isBlank text

/-- Only blanks are trimmed off. -/
theorem mem_trim {text : Text} {c : Char} (hmem : c ∈ text) (hblank : isBlank c = false) :
    c ∈ trim text := by
  obtain ⟨left, right, hleft, hright, htext⟩ := exists_eq_append_strip_append isBlank text
  rw [htext, List.mem_append, List.mem_append] at hmem
  obtain (hmem | hmem) | hmem := hmem
  · exact absurd (hleft c hmem) (by simp [hblank])
  · exact hmem
  · exact absurd (hright c hmem) (by simp [hblank])

theorem range_of_isUpper {c : Char} (hc : c.isUpper = true) : 65 ≤ c.toNat ∧ c.toNat ≤ 90 := by
  have hrange : decide (65 ≤ c.val ∧ c.val ≤ 90) = true := hc
  exact of_decide_eq_true hrange

theorem range_of_isLower {c : Char} (hc : c.isLower = true) : 97 ≤ c.toNat ∧ c.toNat ≤ 122 := by
  have hrange : (decide (97 ≤ c.val) && decide (c.val ≤ 122)) = true := hc
  rw [Bool.and_eq_true, decide_eq_true_eq, decide_eq_true_eq] at hrange
  exact hrange

theorem isAlphanum_of_isDigit {c : Char} (hc : c.isDigit = true) : c.isAlphanum = true := by
  change (c.isAlpha || c.isDigit) = true
  rw [hc, Bool.or_true]

theorem isBlank_of_isAlphanum {c : Char} (hc : c.isAlphanum = true) : isBlank c = false := by
  have hclass : (c.isUpper = true ∨ c.isLower = true) ∨ c.isDigit = true := by
    have hor : (c.isUpper || c.isLower || c.isDigit) = true := hc
    rwa [Bool.or_eq_true, Bool.or_eq_true] at hor
  have hrange : (65 ≤ c.toNat ∧ c.toNat ≤ 90) ∨ (97 ≤ c.toNat ∧ c.toNat ≤ 122) ∨
      (48 ≤ c.toNat ∧ c.toNat ≤ 57) := by
    obtain (hupper | hlower) | hdigit := hclass
    · exact Or.inl (range_of_isUpper hupper)
    · exact Or.inr (Or.inl (range_of_isLower hlower))
    · exact Or.inr (Or.inr (Char.isDigit_iff_toNat.mp hdigit))
  simp only [isBlank, decide_eq_false_iff_not]
  omega

theorem isAllBlank_eq_true_iff {text : Text} :
    isAllBlank text = true ↔ ∀ c ∈ text, isBlank c = true := by
  simp [isAllBlank]

theorem trim_eq_nil_iff {text : Text} : trim text = [] ↔ isAllBlank text = true := by
  rw [isAllBlank_eq_true_iff]
  exact strip_eq_nil_iff

/-- What is trimmed is blank only if nothing is left of it. -/
theorem isAllBlank_trim_iff {text : Text} : isAllBlank (trim text) = true ↔ trim text = [] := by
  constructor
  · intro hblank
    rw [trim_eq_nil_iff, isAllBlank_eq_true_iff]
    rw [isAllBlank_eq_true_iff] at hblank
    intro c hc
    by_contra hnot
    rw [Bool.not_eq_true] at hnot
    exact absurd (hblank c (mem_trim hc hnot)) (by simp [hnot])
  · intro hnil
    rw [hnil]
    rfl

end OpcodeAtlas.Text
