import OpcodeAtlas.AddressingMode
import OpcodeAtlas.Proofs.Text.Words

namespace OpcodeAtlas

namespace AddressingMode

/-- A character that stays in the canonical form of a label, though perhaps as another one. -/
def isLabelMark (c : Char) : Bool :=
  c != '(' && c != ')' && !isBlank c

/-- The canonical form treats each character by itself. -/
theorem canonicalLabel_eq (label : Text) :
    canonicalLabel label =
      (label.filter isLabelMark).map fun c => if c = ',' then '_' else c := by
  have hsqueeze : Text.squeeze = List.filter (!isBlank ·) := funext Text.squeeze_eq_filter
  rw [canonicalLabel, hsqueeze, ← Text.splitOn_eq, Text.join_map_filter_splitOn '_' (by decide),
    List.filter_filter]
  congr 1
  refine List.filter_congr fun c _ => ?_
  rw [isLabelMark, Bool.and_comm]

theorem canonicalLabel_append (first second : Text) :
    canonicalLabel (first ++ second) = canonicalLabel first ++ canonicalLabel second := by
  rw [canonicalLabel_eq, canonicalLabel_eq, canonicalLabel_eq, List.filter_append, List.map_append]

/-- What becomes of a character of a label: a parenthesis and a blank go, a comma turns into an
underscore, and all else stays. -/
def canonicalMark? (c : Char) : Option Char :=
  if c = '(' ∨ c = ')' ∨ isBlank c = true then none
  else if c = ',' then some '_'
  else some c

theorem canonicalLabel_eq_filterMap (label : Text) :
    canonicalLabel label = label.filterMap canonicalMark? := by
  rw [canonicalLabel_eq, ← List.filterMap_eq_map', List.filterMap_filter]
  refine List.filterMap_congr fun c _ => ?_
  by_cases hgone : c = '(' ∨ c = ')' ∨ isBlank c = true
  · have hmark : isLabelMark c = false := by
      obtain rfl | rfl | hblank := hgone <;> simp [isLabelMark, *]
    simp [canonicalMark?, hgone, hmark]
  · have hmark : isLabelMark c = true := by
      simpa [isLabelMark, not_or, and_assoc] using hgone
    simp only [canonicalMark?, if_neg hgone, hmark, if_true]
    split <;> rfl

/-- A character that is left over is left over again, as it is. -/
theorem canonicalMark?_idem {c mark : Char} (hmark : canonicalMark? c = some mark) :
    canonicalMark? mark = some mark := by
  unfold canonicalMark? at hmark
  split at hmark
  · cases hmark
  · next hstays =>
    split at hmark
    · obtain rfl := Option.some.inj hmark
      decide
    · next hcomma =>
      obtain rfl := Option.some.inj hmark
      rw [canonicalMark?, if_neg hstays, if_neg hcomma]

theorem canonicalLabel_canonicalLabel (label : Text) :
    canonicalLabel (canonicalLabel label) = canonicalLabel label := by
  simp only [canonicalLabel_eq_filterMap, List.filterMap_filterMap]
  refine List.filterMap_congr fun c _ => ?_
  cases hmark : canonicalMark? c with
  | none => rfl
  | some mark => exact canonicalMark?_idem hmark

theorem canonicalLabel_of_blank {text : Text} (hblank : ∀ c ∈ text, isBlank c = true) :
    canonicalLabel text = [] := by
  rw [canonicalLabel_eq, List.filter_eq_nil_iff.mpr, List.map_nil]
  intro c hc
  simp [isLabelMark, hblank c hc]

theorem canonicalLabel_trim (label : Text) :
    canonicalLabel (Text.trim label) = canonicalLabel label := by
  obtain ⟨left, right, hleft, hright, hlabel⟩ :=
    Text.exists_eq_append_strip_append isBlank label
  have hcanonical := congrArg canonicalLabel hlabel
  rw [canonicalLabel_append, canonicalLabel_append, canonicalLabel_of_blank hleft,
    canonicalLabel_of_blank hright, List.nil_append, List.append_nil] at hcanonical
  exact hcanonical.symm

/-- Blanks have no influence on the canonical form, and they all go when the text is put on one
line. -/
theorem canonicalLabel_collapse (label : Text) :
    canonicalLabel (Text.collapse label) = canonicalLabel label := by
  have hmarks (text : Text) :
      text.filter isLabelMark = (Text.squeeze text).filter isLabelMark := by
    rw [Text.squeeze_eq_filter, List.filter_filter]
    refine List.filter_congr fun c _ => ?_
    simp [isLabelMark, Bool.and_assoc]
  have hsqueeze : Text.squeeze (Text.collapse label) = Text.squeeze label :=
    congrArg List.flatten (Text.words_collapse label)
  rw [canonicalLabel_eq, canonicalLabel_eq, hmarks, hsqueeze, ← hmarks]

theorem mem_canonicalLabel {label : Text} {c : Char} (hmem : c ∈ label)
    (hmark : isLabelMark c = true) (hcomma : c ≠ ',') : c ∈ canonicalLabel label := by
  rw [canonicalLabel_eq, List.mem_map]
  exact ⟨c, List.mem_filter.mpr ⟨hmem, hmark⟩, if_neg hcomma⟩

theorem name_injective {mode other : AddressingMode} (hname : mode.name = other.name) :
    mode = other := by
  revert hname
  cases mode <;> cases other <;> decide

theorem ofName?_eq_some_iff {text : Text} {mode : AddressingMode} :
    ofName? text = some mode ↔ mode.name = text := by
  rw [ofName?]
  constructor
  · intro hfind
    simpa using List.find?_some hfind
  · rintro rfl
    cases hfind : all.find? fun other => decide (other.name = mode.name) with
    | none => simpa using List.find?_eq_none.mp hfind mode (mem_all mode)
    | some other =>
      have hname : other.name = mode.name := by simpa using List.find?_some hfind
      rw [name_injective hname]

end AddressingMode

end OpcodeAtlas
