import OpcodeAtlas.Proofs.Text.Pieces
import OpcodeAtlas.Text.Numeral
import Mathlib.Data.List.Induction

namespace OpcodeAtlas.Numeral

/-- A minus sign in front of a number that is not zero, with padding around both. -/
def IsNegative (text : Text) : Prop :=
  ∃ magnitude, text.strip isPadding = '-' :: magnitude ∧
    ∃ c ∈ magnitude, ∃ digit, digitValue? 10 c = some digit ∧ 0 < digit

/-- Only zeros give zero. -/
theorem valueOf_pos_iff {base : Nat} (hbase : 0 < base) {digits : List Nat} :
    0 < valueOf base digits ↔ ∃ digit ∈ digits, 0 < digit := by
  induction digits using List.reverseRecOn with
  | nil => simp [valueOf]
  | append_singleton earlier last ih =>
    have hvalue : valueOf base (earlier ++ [last]) = valueOf base earlier * base + last := by
      simp [valueOf]
    have hearlier : 0 < valueOf base earlier * base ↔ 0 < valueOf base earlier :=
      Nat.mul_pos_iff_of_pos_right hbase
    rw [hvalue, Nat.add_pos_iff_pos_or_pos, hearlier, ih]
    simp [or_and_right, exists_or]

theorem eq_filterMap_of_mapM {α β : Type} {f : α → Option β} {items : List α} {results : List β}
    (hread : items.mapM f = some results) : results = items.filterMap f := by
  induction items generalizing results with
  | nil => simpa using hread.symm
  | cons item rest ih =>
    rw [List.mapM_cons] at hread
    obtain ⟨result, hitem, hread⟩ := Option.bind_eq_some_iff.mp hread
    obtain ⟨others, hothers, hread⟩ := Option.bind_eq_some_iff.mp hread
    obtain rfl := Option.some.inj hread
    rw [List.filterMap_cons_some hitem, ih hothers]

theorem flatten_of_mapM_groups {base : Nat} {groups : List Text} {parts : List (List Nat)}
    (hread : (groups.mapM fun group =>
      if group.isEmpty then none else group.mapM (digitValue? base)) = some parts) :
    parts.flatten = groups.flatMap (List.filterMap (digitValue? base)) := by
  induction groups generalizing parts with
  | nil =>
    obtain rfl : parts = [] := by simpa using hread.symm
    rfl
  | cons group rest ih =>
    rw [List.mapM_cons] at hread
    obtain ⟨part, hpart, hread⟩ := Option.bind_eq_some_iff.mp hread
    obtain ⟨others, hothers, hread⟩ := Option.bind_eq_some_iff.mp hread
    obtain rfl := Option.some.inj hread
    split at hpart
    · cases hpart
    · rw [List.flatten_cons, List.flatMap_cons, ih hothers, eq_filterMap_of_mapM hpart]

/-- The digits of a numeral are those of its characters that have a value, in order. -/
theorem digits?_eq_filterMap {base : Nat} {text : Text} {digits : List Nat}
    (hdigits : digits? base text = some digits) : digits = text.filterMap (digitValue? base) := by
  obtain ⟨parts, hparts, hflatten⟩ := Option.bind_eq_some_iff.mp hdigits
  obtain rfl := Option.some.inj hflatten
  have hmark : digitValue? base '_' = none := rfl
  rw [flatten_of_mapM_groups hparts, ← Text.filterMap_join hmark, Text.join_splitOn]

theorem readNat?_pos_iff {text : Text} {value : Nat} (hread : readNat? .decimal text = some value) :
    0 < value ↔ ∃ c ∈ text, ∃ digit, digitValue? 10 c = some digit ∧ 0 < digit := by
  obtain ⟨digits, hdigits, hread⟩ := Option.bind_eq_some_iff.mp hread
  split at hread
  · cases hread
  · obtain rfl := Option.some.inj hread
    have hfilter : digits = text.filterMap (digitValue? 10) := digits?_eq_filterMap hdigits
    change 0 < valueOf 10 digits ↔ _
    rw [valueOf_pos_iff (by decide), hfilter]
    simp only [List.mem_filterMap]
    constructor
    · rintro ⟨digit, ⟨c, hc, hdigit⟩, hpos⟩
      exact ⟨c, hc, digit, hdigit, hpos⟩
    · rintro ⟨c, hc, digit, hdigit, hpos⟩
      exact ⟨digit, ⟨c, hc, hdigit⟩, hpos⟩

/-- A number that is read is below zero exactly if it is printed so. -/
theorem readInt?_neg_iff {text : Text} {value : Int} (hread : readInt? .decimal text = some value) :
    value < 0 ↔ IsNegative text := by
  unfold readInt? at hread
  split at hread
  · next magnitude hstrip =>
    obtain ⟨_, hmagnitude, rfl⟩ := Option.map_eq_some_iff.mp hread
    obtain ⟨absolute, habsolute, hcast⟩ := Option.bind_eq_some_iff.mp hmagnitude
    obtain rfl := Option.some.inj hcast
    have hpos : -(absolute : Int) < 0 ↔ 0 < absolute := by omega
    rw [hpos, readNat?_pos_iff habsolute, IsNegative, hstrip]
    simp
  · next magnitude hstrip =>
    obtain ⟨absolute, -, rfl⟩ := Option.map_eq_some_iff.mp hread
    refine iff_of_false (Int.not_lt.mpr (Int.natCast_nonneg absolute)) ?_
    rintro ⟨_, hminus, -⟩
    rw [hstrip] at hminus
    exact absurd (List.cons.inj hminus).1 (by decide)
  · next hminus _ =>
    obtain ⟨absolute, -, rfl⟩ := Option.map_eq_some_iff.mp hread
    refine iff_of_false (Int.not_lt.mpr (Int.natCast_nonneg absolute)) ?_
    rintro ⟨magnitude, hstrip, -⟩
    exact hminus magnitude hstrip

end OpcodeAtlas.Numeral
