import OpcodeAtlas.Listing.Section
import OpcodeAtlas.Proofs.Text.Trim
import Mathlib.Order.Bounds.Basic

namespace OpcodeAtlas.Listing

/-- The line with this index is an underline. -/
def UnderlineAt (lines : List Text) (i : Nat) : Prop :=
  ∃ line, lines[i]? = some line ∧ isUnderline line = true

/-- There is a line before this index, and it can be a title: it is neither blank nor an
underline. -/
def TitledAt (lines : List Text) (i : Nat) : Prop :=
  ∃ j line, i = j + 1 ∧ lines[j]? = some line ∧ Text.isAllBlank line = false ∧
    isUnderline line = false

instance (lines : List Text) (i : Nat) : Decidable (UnderlineAt lines i) :=
  decidable_of_iff (lines[i]?.any isUnderline = true) (by simp [UnderlineAt, Option.any_eq_true])

/-- The underlines that have a title. The first of them opens the first section. -/
def titledUnderlines (lines : List Text) : Set Nat :=
  {i | UnderlineAt lines i ∧ TitledAt lines i}

/-- The underlines behind the first one of a section that lack a title. -/
def untitledAfter (lines : List Text) (first : Nat) : Set Nat :=
  {i | first < i ∧ UnderlineAt lines i ∧ ¬ TitledAt lines i}

/-- The underlines from one index to before another. -/
def underlinesIn (lines : List Text) (first stop : Nat) : Set Nat :=
  {i | first ≤ i ∧ i < stop ∧ UnderlineAt lines i}

/-- The same underlines in ascending order. -/
def underlinesBetween (lines : List Text) (first stop : Nat) : List Nat :=
  (List.range stop).filter fun i => decide (first ≤ i ∧ UnderlineAt lines i)

/-- The underlines that begin the sections of a text whose first section begins at `first`. -/
def sectionStarts (lines : List Text) (first : Nat) : List Nat :=
  underlinesBetween lines first lines.length

/-- The title that belongs to an underline. -/
def titleAt (lines : List Text) (i : Nat) : Text :=
  Text.trim (lines.getD (i - 1) [])

/-- The lines from one index to before another. -/
def slice (lines : List Text) (start stop : Nat) : List Text :=
  (lines.take stop).drop start

/-- The sections that begin at the given underlines. Each ends before the title of the next one,
and the last one before `stop`. -/
def sectionsAt (lines : List Text) (stop : Nat) : List Nat → List Section
  | [] => []
  | [last] => [⟨titleAt lines last, slice lines (last + 1) stop⟩]
  | i :: next :: rest =>
    ⟨titleAt lines i, slice lines (i + 1) (next - 1)⟩ :: sectionsAt lines stop (next :: rest)

theorem not_titledAt_zero (lines : List Text) : ¬ TitledAt lines 0 := by
  rintro ⟨j, line, hzero, _⟩
  omega

theorem underlineAt_iff {lines : List Text} {i : Nat} {line : Text}
    (hline : lines[i]? = some line) :
    UnderlineAt lines i ↔ isUnderline line = true := by
  simp [UnderlineAt, hline]

theorem titledAt_succ_iff {lines : List Text} {i : Nat} {line : Text}
    (hline : lines[i]? = some line) :
    TitledAt lines (i + 1) ↔ Text.isAllBlank line = false ∧ isUnderline line = false := by
  constructor
  · rintro ⟨j, other, hindex, hother, hblank, hunder⟩
    obtain rfl : i = j := by omega
    obtain rfl : line = other := by simpa [hline] using hother
    exact ⟨hblank, hunder⟩
  · rintro ⟨hblank, hunder⟩
    exact ⟨i, line, rfl, hline, hblank, hunder⟩

theorem titleAt_succ {lines : List Text} {i : Nat} {line : Text} (hline : lines[i]? = some line) :
    titleAt lines (i + 1) = Text.trim line := by
  simp [titleAt, List.getD_eq_getElem?_getD, hline]

theorem mem_underlinesBetween {lines : List Text} {first stop i : Nat} :
    i ∈ underlinesBetween lines first stop ↔ i ∈ underlinesIn lines first stop := by
  simp only [underlinesBetween, underlinesIn, List.mem_filter, List.mem_range, decide_eq_true_eq,
    Set.mem_ofPred_eq]
  tauto

theorem underlinesBetween_succ (lines : List Text) {first stop : Nat} (hle : first ≤ stop) :
    underlinesBetween lines first (stop + 1) =
      underlinesBetween lines first stop ++ if UnderlineAt lines stop then [stop] else [] := by
  simp only [underlinesBetween, List.range_succ, List.filter_append, List.filter_cons,
    List.filter_nil, hle, true_and, decide_eq_true_eq]

theorem slice_self (lines : List Text) (i : Nat) : slice lines i i = [] := by
  simp [slice]

theorem slice_succ {lines : List Text} {start stop : Nat} {line : Text} (hle : start ≤ stop)
    (hline : lines[stop]? = some line) :
    slice lines start (stop + 1) = slice lines start stop ++ [line] := by
  obtain ⟨hstop, hget⟩ := List.getElem?_eq_some_iff.mp hline
  have htake : start ≤ (lines.take stop).length := by
    rw [List.length_take]
    omega
  rw [slice, slice, List.take_add_one, hline, List.drop_append_of_le_length htake]
  rfl

theorem sectionsAt_append_singleton (lines : List Text) (stop last : Nat) (earlier : List Nat) :
    sectionsAt lines stop (earlier ++ [last]) =
      sectionsAt lines (last - 1) earlier ++
        [⟨titleAt lines last, slice lines (last + 1) stop⟩] := by
  induction earlier with
  | nil => rfl
  | cons i rest ih =>
    cases rest with
    | nil => rfl
    | cons next rest =>
      simp only [List.cons_append, sectionsAt] at ih ⊢
      rw [ih]

theorem length_sectionsAt (lines : List Text) (stop : Nat) (starts : List Nat) :
    (sectionsAt lines stop starts).length = starts.length := by
  induction starts with
  | nil => rfl
  | cons i rest ih =>
    cases rest with
    | nil => rfl
    | cons next rest => simpa [sectionsAt] using ih

theorem getElem?_sectionsAt (lines : List Text) (stop : Nat) {starts : List Nat} {k i : Nat}
    (hstart : starts[k]? = some i) :
    (sectionsAt lines stop starts)[k]? =
      some ⟨titleAt lines i, slice lines (i + 1) (starts[k + 1]?.elim stop (· - 1))⟩ := by
  induction starts generalizing k with
  | nil => simp at hstart
  | cons start rest ih =>
    cases rest with
    | nil =>
      cases k with
      | zero =>
        obtain rfl : start = i := by simpa using hstart
        rfl
      | succ k => simp at hstart
    | cons next rest =>
      cases k with
      | zero =>
        obtain rfl : start = i := by simpa using hstart
        rfl
      | succ k => exact ih (k := k) (by simpa using hstart)

theorem slice_length (lines : List Text) (start : Nat) :
    slice lines start lines.length = lines.drop start := by
  rw [slice, List.take_length]

theorem slice_append_slice (lines : List Text) {start middle stop : Nat} (hstart : start ≤ middle)
    (hstop : middle ≤ stop) :
    slice lines start middle ++ slice lines middle stop = slice lines start stop := by
  have hlength : stop - start = (middle - start) + (stop - middle) := by omega
  rw [slice, slice, slice, List.drop_take, List.drop_take, List.drop_take, hlength, List.take_add,
    List.drop_drop, Nat.add_sub_cancel' hstart]

theorem slice_eq_cons {lines : List Text} {start stop : Nat} (hlt : start < stop)
    (hbound : start < lines.length) :
    slice lines start stop = lines.getD start [] :: slice lines (start + 1) stop := by
  have hsplit := slice_append_slice lines (Nat.le_succ start) hlt
  have hline : lines[start]? = some lines[start] := List.getElem?_eq_getElem hbound
  rw [← hsplit, slice_succ (Nat.le_refl start) hline, slice_self, List.getD_eq_getElem?_getD, hline]
  rfl

/-- A stretch that begins at a title begins with the title and its underline. -/
theorem slice_pred_eq_cons {lines : List Text} {i stop : Nat} (hpos : 0 < i) (hlt : i < stop)
    (hle : stop ≤ lines.length) :
    slice lines (i - 1) stop =
      lines.getD (i - 1) [] :: lines.getD i [] :: slice lines (i + 1) stop := by
  have hpred : i - 1 + 1 = i := by omega
  rw [slice_eq_cons (show i - 1 < stop by omega) (by omega), hpred, slice_eq_cons hlt (by omega)]

/-- The lines of the sections, each behind its title and its underline, are the lines of the
text from the first title on. -/
theorem flatMap_sectionsAt {lines : List Text} {stop first : Nat} {rest : List Nat}
    (hgaps : (first :: rest).Pairwise fun i j => i + 2 ≤ j)
    (hbounds : ∀ i ∈ first :: rest, 0 < i ∧ i < stop) (hstop : stop ≤ lines.length) :
    (((first :: rest).zip (sectionsAt lines stop (first :: rest))).flatMap fun (i, part) =>
        lines.getD (i - 1) [] :: lines.getD i [] :: part.lines) =
      slice lines (first - 1) stop := by
  obtain ⟨hpos, hlt⟩ := hbounds first List.mem_cons_self
  induction rest generalizing first with
  | nil => simpa [sectionsAt] using (slice_pred_eq_cons hpos hlt hstop).symm
  | cons next rest ih =>
    obtain ⟨hfirst, hrest⟩ := List.pairwise_cons.mp hgaps
    have hgap : first + 2 ≤ next := hfirst next List.mem_cons_self
    have hbounds' : ∀ i ∈ next :: rest, 0 < i ∧ i < stop :=
      fun i hi => hbounds i (List.mem_cons_of_mem _ hi)
    obtain ⟨hnextPos, hnextLt⟩ := hbounds' next List.mem_cons_self
    have htail := ih hrest hbounds' hnextPos hnextLt
    simp only [sectionsAt, List.zip_cons_cons, List.flatMap_cons] at htail ⊢
    rw [htail, ← slice_append_slice lines (show first - 1 ≤ next - 1 by omega) (by omega),
      slice_pred_eq_cons hpos (show first < next - 1 by omega) (by omega)]

end OpcodeAtlas.Listing
