import OpcodeAtlas.Text.Basic
import OpcodeAtlas.Text.Case
import OpcodeAtlas.Text.Letter
import Mathlib.Data.List.Chain
import Mathlib.Data.List.TakeWhile
import Mathlib.Tactic.SplitIfs

namespace OpcodeAtlas

namespace CaseRun

/-- The code points that a run changes. -/
def Covers (run : CaseRun) (code : Nat) : Prop :=
  run.first ≤ code ∧ code ≤ run.last ∧ (code - run.first) % run.stride = 0

theorem image?_eq_some_iff {run : CaseRun} {code image : Nat} :
    run.image? code = some image ↔ run.Covers code ∧ (code + run.distance).toNat = image := by
  rw [image?, Covers]
  split_ifs with hcovers
  · simp [hcovers]
  · simp [hcovers]

theorem image?_eq_none_iff {run : CaseRun} {code : Nat} :
    run.image? code = none ↔ ¬run.Covers code := by
  rw [image?, Covers]
  split_ifs with hcovers
  · simp [hcovers]
  · simp [hcovers]

/-- A single code point. -/
def single (code : Nat) : CaseRun :=
  ⟨code, code, 2, 0⟩

theorem covers_single_iff {code other : Nat} : (single code).Covers other ↔ other = code := by
  simp only [Covers, single]
  omega

/-- The code points that a run leads to. -/
def images (run : CaseRun) : CaseRun :=
  ⟨(run.first + run.distance).toNat, (run.last + run.distance).toNat,
    if run.first = run.last then 2 else run.stride, 0⟩

theorem covers_images {run : CaseRun} (hnonneg : 0 ≤ run.first + run.distance) {code image : Nat}
    (himage : run.image? code = some image) : run.images.Covers image := by
  obtain ⟨⟨hfirst, hlast, hstride⟩, rfl⟩ := image?_eq_some_iff.mp himage
  have hstart : (code + run.distance).toNat - (run.first + run.distance).toNat =
      code - run.first := by
    omega
  refine ⟨?_, ?_, ?_⟩
  · simp only [images]
    omega
  · simp only [images]
    omega
  · simp only [images, hstart]
    split_ifs with hsingle
    · omega
    · exact hstride

/-- The runs of a table follow one another. -/
def Precedes (run later : CaseRun) : Prop :=
  run.first ≤ run.last ∧ run.last < later.first

instance : DecidableRel Precedes := fun run later =>
  inferInstanceAs (Decidable (run.first ≤ run.last ∧ run.last < later.first))

instance : Trans Precedes Precedes Precedes where
  trans := by
    rintro run middle later ⟨hrun, hmiddle⟩ ⟨hmiddle', hlater⟩
    exact ⟨hrun, by omega⟩

/-- No code point of a run is changed by a table: the first run of the table that does not end
before it begins behind it or, both of them taking every second code point, lies between its
points. The tests are Boolean, so that whole tables can be checked. -/
def misses (run : CaseRun) (table : List CaseRun) : Bool :=
  match table.dropWhile fun other => Nat.blt other.last run.first with
  | [] => true
  | other :: _ => Nat.blt run.last other.first ||
    Nat.beq run.stride 2 && Nat.beq other.stride 2 && Nat.ble run.last other.last &&
      Nat.beq ((run.first + other.first) % 2) 1

theorem not_covers_of_misses {run : CaseRun} {table : List CaseRun}
    (hsorted : table.IsChain Precedes) (hmisses : run.misses table = true) {code : Nat}
    (hcode : run.Covers code) : ∀ other ∈ table, ¬other.Covers code := by
  obtain ⟨hfirst, hlast, hstride⟩ := hcode
  rintro other hother ⟨hfirst', hlast', hstride'⟩
  rw [← List.takeWhile_append_dropWhile (p := fun other => Nat.blt other.last run.first) (l := table),
    List.mem_append] at hother
  -- A run before the cut ends too early. Of the others the first is tested, and it is the nearest.
  obtain hbefore | hbehind := hother
  · have hends := List.mem_takeWhile_imp hbefore
    rw [Nat.blt_eq] at hends
    omega
  · have hchain := hsorted.pairwise.sublist
      (List.dropWhile_sublist fun other => Nat.blt other.last run.first)
    rw [misses] at hmisses
    cases hcut : table.dropWhile fun other => Nat.blt other.last run.first with
    | nil => simp [hcut] at hbehind
    | cons next rest =>
      rw [hcut] at hmisses hbehind hchain
      simp only [Bool.or_eq_true, Bool.and_eq_true, Nat.blt_eq, Nat.beq_eq, Nat.ble_eq] at hmisses
      obtain rfl | hrest := List.mem_cons.mp hbehind
      · obtain hbegins | ⟨⟨⟨hsecond, hsecond'⟩, -⟩, hodd⟩ := hmisses
        · omega
        · rw [hsecond] at hstride
          rw [hsecond'] at hstride'
          omega
      · obtain ⟨hnext, hlater⟩ := List.rel_of_pairwise_cons hchain hrest
        omega

end CaseRun

open CaseRun

/-- The code points that have an upper-case form: the small letters of ASCII, those with a form of
one character and those with a longer one. -/
def raised : List (List CaseRun) :=
  [[⟨97, 122, 1, -32⟩], upperRuns, upperExpansions.map fun expansion => single expansion.1]

private theorem isChain_raised : ∀ table ∈ raised, table.IsChain Precedes := by
  decide +kernel

private theorem upperRuns_misses : ∀ run ∈ upperRuns, 0 ≤ run.first + run.distance ∧
    ∀ table ∈ raised, run.images.misses table = true := by
  decide +kernel

private theorem upperExpansions_misses : ∀ expansion ∈ upperExpansions, ∀ code ∈ expansion.2,
    ∀ table ∈ raised, (single code).misses table = true := by
  decide +kernel

/-- A character of ASCII that is no small letter is its own upper-case form. -/
private theorem upperChar_eq_self {c : Char} (hascii : c.toNat < 128)
    (hother : ¬('a'.val ≤ c.val ∧ c.val ≤ 'z'.val)) : upperChar c = [c] := by
  rw [upperChar, if_pos hascii]
  exact congrArg (fun c => [c]) (dif_neg hother)

/-- Upper case has no further upper case within ASCII. -/
private theorem upperChar_toUpper {c : Char} (hascii : c.toNat < 128) :
    upperChar c.toUpper = [c.toUpper] := by
  by_cases hlower : 'a'.val ≤ c.val ∧ c.val ≤ 'z'.val
  · have hfirst : 97 ≤ c.toNat := hlower.1
    have hlast : c.toNat ≤ 122 := hlower.2
    have hupper : c.toUpper = _ := dif_pos hlower
    -- The difference of the two letters is negative, so it wraps around.
    have hshift : ('A'.val - 'a'.val).toNat = 2 ^ 32 - 32 := rfl
    have hcode : c.toUpper.toNat = c.toNat - 32 := by
      rw [hupper, ← Char.toNat_val, UInt32.toNat_add, hshift, Char.toNat_val]
      omega
    refine upperChar_eq_self (by omega) ?_
    rintro ⟨hsmall, -⟩
    have hsmall : 97 ≤ c.toUpper.toNat := hsmall
    omega
  · have hself : c.toUpper = c := dif_neg hlower
    rw [hself]
    exact upperChar_eq_self hascii hlower

private theorem toNat_ofNat {code : Nat} (hvalid : code.isValidChar) :
    (Char.ofNat code).toNat = code := by
  rw [Char.ofNat, dif_pos hvalid]
  rfl

/-- A code point that no table changes is its own upper-case form. -/
theorem upperChar_ofNat_eq_self {code : Nat}
    (hsettled : ∀ table ∈ raised, ∀ run ∈ table, ¬run.Covers code) :
    upperChar (Char.ofNat code) = [Char.ofNat code] := by
  by_cases hvalid : code.isValidChar
  · have hcode := toNat_ofNat hvalid
    have hsmall : ¬CaseRun.Covers ⟨97, 122, 1, -32⟩ code :=
      hsettled _ List.mem_cons_self _ List.mem_cons_self
    have hruns : upperRuns.findSome? (·.image? code) = none := by
      rw [List.findSome?_eq_none_iff]
      exact fun run hrun => image?_eq_none_iff.mpr (hsettled upperRuns (by simp [raised]) run hrun)
    have hexpansions : upperExpansions.find? (·.1 = code) = none := by
      rw [List.find?_eq_none]
      intro expansion hmem
      have hne : ¬(single expansion.1).Covers code :=
        hsettled (upperExpansions.map fun expansion => single expansion.1) (by simp [raised]) _
          (List.mem_map_of_mem hmem)
      simpa [covers_single_iff, eq_comm] using hne
    rw [upperChar, hcode, mapCase, hcode, hruns, hexpansions]
    split
    · have hlower : ¬('a'.val ≤ (Char.ofNat code).val ∧ (Char.ofNat code).val ≤ 'z'.val) := by
        rintro ⟨hfirst, hlast⟩
        exact hsmall ⟨hcode ▸ hfirst, hcode ▸ hlast, Nat.mod_one _⟩
      exact congrArg (fun c => [c]) (dif_neg hlower)
    · rfl
  · rw [Char.ofNat, dif_neg hvalid]
    rfl

/-- No upper-case form has another one. -/
theorem upperChar_of_mem {c d : Char} (hd : d ∈ upperChar c) : upperChar d = [d] := by
  by_cases hascii : c.toNat < 128
  · rw [upperChar, if_pos hascii, List.mem_singleton] at hd
    exact hd ▸ upperChar_toUpper hascii
  · have hupper : upperChar c = mapCase upperRuns upperExpansions c := if_neg hascii
    rw [hupper, mapCase] at hd
    split at hd
    · next expansion image hfind =>
      obtain ⟨code, hcode, rfl⟩ := List.mem_map.mp hd
      have hmisses := upperExpansions_misses _ (List.mem_of_find?_eq_some hfind) code hcode
      exact upperChar_ofNat_eq_self fun table htable =>
        not_covers_of_misses (isChain_raised table htable) (hmisses table htable)
          (covers_single_iff.mpr rfl)
    · next hexpansions =>
      split at hd
      · next code hfind =>
        obtain rfl := List.mem_singleton.mp hd
        obtain ⟨run, hrun, himage⟩ := List.exists_of_findSome?_eq_some hfind
        obtain ⟨hnonneg, hmisses⟩ := upperRuns_misses run hrun
        exact upperChar_ofNat_eq_self fun table htable =>
          not_covers_of_misses (isChain_raised table htable) (hmisses table htable)
            (covers_images hnonneg himage)
      · next hruns =>
        obtain rfl := List.mem_singleton.mp hd
        rw [hupper, mapCase, hexpansions, hruns]

theorem isAlpha_of_isLetter {c : Char} (hc : isLetter c = true) (hascii : c.toNat < 128) :
    c.isAlpha = true := by
  rwa [isLetter, if_pos hascii] at hc

/-- A code point of a run leads to a character, and to a small letter if it leads into ASCII. -/
private theorem lowerRuns_images : ∀ run ∈ lowerRuns, 0 ≤ run.first + run.distance ∧
    (128 ≤ run.images.first ∧ run.images.last < 0xD800 ∨
      0xE000 ≤ run.images.first ∧ run.images.last < 0x110000 ∨
      97 ≤ run.images.first ∧ run.images.last ≤ 122) := by
  decide +kernel

/-- The small letters of ASCII are letters. -/
theorem isAlpha_of_small {c : Char} (hfirst : 97 ≤ c.toNat) (hlast : c.toNat ≤ 122) :
    c.isAlpha = true := by
  have hlower : c.isLower = true := by
    change (decide (97 ≤ c.val) && decide (c.val ≤ 122)) = true
    rw [Bool.and_eq_true, decide_eq_true_eq, decide_eq_true_eq]
    exact ⟨hfirst, hlast⟩
  change (c.isUpper || c.isLower) = true
  rw [hlower, Bool.or_true]

theorem isAlpha_toLower {c : Char} (hc : c.isAlpha = true) : c.toLower.isAlpha = true := by
  by_cases hupper : 'A'.val ≤ c.val ∧ c.val ≤ 'Z'.val
  · have hfirst : 65 ≤ c.toNat := hupper.1
    have hlast : c.toNat ≤ 90 := hupper.2
    have hval : c.toLower.val = c.val + 32 := congrArg Char.val (dif_pos hupper)
    have hcode : c.toLower.toNat = c.toNat + 32 := by
      rw [← Char.toNat_val, hval, UInt32.toNat_add, Char.toNat_val]
      exact Nat.mod_eq_of_lt (by change c.toNat + 32 < 2 ^ 32; omega)
    exact isAlpha_of_small (by omega) (by omega)
  · have hself : c.toLower = c := dif_neg hupper
    rw [hself, hc]

private theorem lowerExpansions_alpha : ∀ expansion ∈ lowerExpansions, ∀ code ∈ expansion.2,
    (Char.ofNat code).toNat < 128 → (Char.ofNat code).isAlpha = true := by
  decide

/-- The lower-case form of a letter holds letters as far as it is ASCII. -/
theorem isAlpha_of_mem_lowerChar {c d : Char} (hc : isLetter c = true) (hd : d ∈ lowerChar c)
    (hascii : d.toNat < 128) : d.isAlpha = true := by
  rw [lowerChar] at hd
  split at hd
  · next hsmall =>
    rw [List.mem_singleton] at hd
    exact hd ▸ isAlpha_toLower (isAlpha_of_isLetter hc hsmall)
  · next hlarge =>
    rw [mapCase] at hd
    split at hd
    · next expansion image hfind =>
      obtain ⟨code, hcode, rfl⟩ := List.mem_map.mp hd
      exact lowerExpansions_alpha _ (List.mem_of_find?_eq_some hfind) code hcode hascii
    · split at hd
      · next code hfind =>
        obtain rfl := List.mem_singleton.mp hd
        obtain ⟨run, hrun, himage⟩ := List.exists_of_findSome?_eq_some hfind
        obtain ⟨hnonneg, hrange⟩ := lowerRuns_images run hrun
        obtain ⟨hfirst, hlast, -⟩ := covers_images hnonneg himage
        have hvalid : code.isValidChar := by
          simp only [Nat.isValidChar]
          omega
        have hcode : (Char.ofNat code).toNat = code := toNat_ofNat hvalid
        exact isAlpha_of_small (by omega) (by omega)
      · obtain rfl := List.mem_singleton.mp hd
        exact absurd hascii hlarge

private theorem lowerExpansions_ne_nil : ∀ expansion ∈ lowerExpansions, expansion.2 ≠ [] := by
  decide

theorem lowerChar_ne_nil (c : Char) : lowerChar c ≠ [] := by
  unfold lowerChar
  split
  · exact List.cons_ne_nil _ _
  · unfold mapCase
    split
    · next hfind =>
      rw [Ne, List.map_eq_nil_iff]
      exact lowerExpansions_ne_nil _ (List.mem_of_find?_eq_some hfind)
    · split <;> exact List.cons_ne_nil _ _

namespace Text

/-- Upper case of upper case is the same. -/
theorem toUpper_toUpper (text : Text) : toUpper (toUpper text) = toUpper text := by
  rw [toUpper, toUpper, List.flatMap_assoc]
  refine List.flatMap_congr fun c _ => ?_
  rw [List.flatMap_congr fun d hd => upperChar_of_mem hd, List.flatMap_singleton']

/-- No character is lost in lower case. -/
theorem toLower_eq_nil_iff {text : Text} : toLower text = [] ↔ text = [] := by
  cases text with
  | nil => exact iff_of_true rfl rfl
  | cons c rest =>
    refine iff_of_false (fun hnil => ?_) (List.cons_ne_nil _ _)
    rw [toLower, lowerAfter, List.append_eq_nil_iff] at hnil
    obtain ⟨himage, -⟩ := hnil
    split_ifs at himage
    exact lowerChar_ne_nil c himage

private theorem exists_of_mem_lowerAfter {d : Char} {before text : Text}
    (hd : d ∈ lowerAfter before text) : d = 'ς' ∨ d = 'σ' ∨ ∃ c ∈ text, d ∈ lowerChar c := by
  induction text generalizing before with
  | nil => simp [lowerAfter] at hd
  | cons c rest ih =>
    rw [lowerAfter, List.mem_append] at hd
    obtain hd | hd := hd
    · split_ifs at hd with hsigma hfinal
      · exact Or.inl (List.mem_singleton.mp hd)
      · exact Or.inr (Or.inl (List.mem_singleton.mp hd))
      · exact Or.inr (Or.inr ⟨c, List.mem_cons_self, hd⟩)
    · obtain hd | hd | ⟨c, hc, hd⟩ := ih hd
      · exact Or.inl hd
      · exact Or.inr (Or.inl hd)
      · exact Or.inr (Or.inr ⟨c, List.mem_cons_of_mem _ hc, hd⟩)

theorem isAlpha_of_mem_toLower {text : Text} (hletters : ∀ c ∈ text, isLetter c = true) {d : Char}
    (hd : d ∈ toLower text) (hascii : d.toNat < 128) : d.isAlpha = true := by
  obtain rfl | rfl | ⟨c, hc, hd⟩ := exists_of_mem_lowerAfter hd
  · exact absurd hascii (by decide)
  · exact absurd hascii (by decide)
  · exact isAlpha_of_mem_lowerChar (hletters c hc) hd hascii

end Text

/-- A mnemonic as the table should hold it: letters only, all of them in upper case. -/
structure IsBareName (name : Text) : Prop where
  ne_nil : name ≠ []
  letters : ∀ c ∈ name, isLetter c = true
  toUpper_eq : Text.toUpper name = name

end OpcodeAtlas
