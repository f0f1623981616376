import OpcodeAtlas.Proofs.Listing.Positions

namespace OpcodeAtlas.Listing

/-- What a scanner holds after the lines before index `n`. While it seeks, its candidate is the
title that an underline at `n` would have. Once a section is open, the underlines so far fix the
title, the lines held back and the sections already closed. -/
inductive Scanner.After (lines : List Text) (n : Nat) : Scanner → Prop where
  | seeking {candidate : Text}
      (hnone : ∀ i, i < n → i ∉ titledUnderlines lines)
      (htitled : TitledAt lines n → candidate = titleAt lines n)
      (huntitled : ¬ TitledAt lines n → candidate = []) :
      After lines n { candidate }
  | buffering (candidate : Text) {first last : Nat} {earlier : List Nat}
      (hfirst : IsLeast (titledUnderlines lines) first)
      (hlast : IsGreatest (underlinesIn lines first n) last)
      (hseen : underlinesBetween lines first n = earlier ++ [last])
      (htitled : ∀ i, i < n → i ∉ untitledAfter lines first) :
      After lines n {
        phase := .buffering (titleAt lines last) (slice lines (last + 1) n).reverse
        candidate
        sections := sectionsAt lines (last - 1) earlier }

/-- The scan of the lines before index `n` stopped at an underline without a title, the first one
of its kind, and the fault cites the section that was open there. -/
def RefusedBefore (lines : List Text) (n : Nat) (fault : Fault) : Prop :=
  ∃ first i last, IsLeast (titledUnderlines lines) first ∧
    IsLeast (untitledAfter lines first) i ∧ i < n ∧
    IsGreatest (underlinesIn lines first i) last ∧
    fault = ⟨.untitledUnderline, locate (titleAt lines last)⟩

theorem Scanner.After.start (lines : List Text) : Scanner.After lines 0 {} :=
  .seeking (fun i hi => absurd hi (Nat.not_lt_zero i))
    (fun htitled => absurd htitled (not_titledAt_zero lines)) (fun _ => rfl)

private theorem isGreatest_underlinesIn_self {lines : List Text} {first n : Nat} (hle : first ≤ n)
    (hunder : UnderlineAt lines n) : IsGreatest (underlinesIn lines first (n + 1)) n :=
  ⟨⟨hle, Nat.lt_succ_self n, hunder⟩, fun _ hi => Nat.le_of_lt_succ hi.2.1⟩

/-- A seeking scanner reads one more line: it opens a section at an underline with a title, and
stays as it is at one without. -/
private theorem Scanner.advance_seeking {lines : List Text} {n : Nat} {line candidate : Text}
    (hline : lines[n]? = some line)
    (hnone : ∀ i, i < n → i ∉ titledUnderlines lines)
    (htitled : TitledAt lines n → candidate = titleAt lines n)
    (huntitled : ¬ TitledAt lines n → candidate = []) :
    ∃ next, Scanner.advance { candidate } line = .ok next ∧ Scanner.After lines (n + 1) next := by
  have hnone' (hn : n ∉ titledUnderlines lines) : ∀ i, i < n + 1 → i ∉ titledUnderlines lines := by
    intro i hi
    obtain hlt | rfl := Nat.lt_succ_iff_lt_or_eq.mp hi
    · exact hnone i hlt
    · exact hn
  have hnext := titledAt_succ_iff hline
  cases hunder : isUnderline line with
  | false =>
    refine ⟨{ candidate := Text.trim line }, by simp [Scanner.advance, Scanner.feed, hunder],
      .seeking ?_ ?_ ?_⟩
    · exact hnone' fun hmem => by simpa [underlineAt_iff hline, hunder] using hmem.1
    · exact fun _ => (titleAt_succ hline).symm
    · intro hnot
      rw [Text.trim_eq_nil_iff]
      simpa [hnext, hunder] using hnot
  | true =>
    have hat : UnderlineAt lines n := (underlineAt_iff hline).mpr hunder
    by_cases htitle : TitledAt lines n
    · obtain rfl := htitled htitle
      have hne : titleAt lines n ≠ [] := by
        obtain ⟨j, before, rfl, hbefore, hblank, -⟩ := htitle
        rw [titleAt_succ hbefore, Ne, Text.trim_eq_nil_iff]
        simp [hblank]
      have hfirst : IsLeast (titledUnderlines lines) n :=
        ⟨⟨hat, htitle⟩, fun i hi => Nat.le_of_not_lt fun hlt => hnone i hlt hi⟩
      have hseen : underlinesBetween lines n (n + 1) = [] ++ [n] := by
        have hempty : underlinesBetween lines n n = [] := by
          rw [List.eq_nil_iff_forall_not_mem]
          intro i hi
          obtain ⟨hle, hlt, -⟩ := mem_underlinesBetween.mp hi
          omega
        rw [underlinesBetween_succ lines (Nat.le_refl n), hempty, if_pos hat]
      have hlast : IsGreatest (underlinesIn lines n (n + 1)) n :=
        isGreatest_underlinesIn_self (Nat.le_refl n) hat
      refine ⟨{ phase := .buffering (titleAt lines n) [], candidate := titleAt lines n }, ?_, ?_⟩
      · simp [Scanner.advance, Scanner.feed, hunder, hne]
      · have hafter := Scanner.After.buffering (titleAt lines n) hfirst hlast hseen
          fun i hi hmem => absurd hmem.1 (by omega)
        rw [slice_self] at hafter
        exact hafter
    · obtain rfl := huntitled htitle
      refine ⟨{}, by simp [Scanner.advance, Scanner.feed, hunder], .seeking ?_ ?_ ?_⟩
      · exact hnone' fun hmem => htitle hmem.2
      · intro hnot
        simp [hnext, hunder] at hnot
      · exact fun _ => rfl

private theorem not_mem_untitledAfter_succ {lines : List Text} {first n : Nat}
    (htitled : ∀ i, i < n → i ∉ untitledAfter lines first) (hn : n ∉ untitledAfter lines first) :
    ∀ i, i < n + 1 → i ∉ untitledAfter lines first := by
  intro i hi
  obtain hlt | rfl := Nat.lt_succ_iff_lt_or_eq.mp hi
  · exact htitled i hlt
  · exact hn

/-- A buffering scanner holds back a line that is no underline. -/
private theorem Scanner.advance_buffering_line {lines : List Text} {n first last : Nat}
    {line candidate : Text} {earlier : List Nat}
    (hline : lines[n]? = some line) (hunder : isUnderline line = false)
    (hfirst : IsLeast (titledUnderlines lines) first)
    (hlast : IsGreatest (underlinesIn lines first n) last)
    (hseen : underlinesBetween lines first n = earlier ++ [last])
    (htitled : ∀ i, i < n → i ∉ untitledAfter lines first) :
    ∃ next, Scanner.advance {
        phase := .buffering (titleAt lines last) (slice lines (last + 1) n).reverse
        candidate
        sections := sectionsAt lines (last - 1) earlier } line = .ok next ∧
      Scanner.After lines (n + 1) next := by
  have hnot : ¬ UnderlineAt lines n := by simp [underlineAt_iff hline, hunder]
  obtain ⟨hle, hlt, -⟩ := hlast.1
  have hheld : slice lines (last + 1) (n + 1) = slice lines (last + 1) n ++ [line] :=
    slice_succ hlt hline
  have hlast' : IsGreatest (underlinesIn lines first (n + 1)) last := by
    refine ⟨⟨hle, Nat.lt_succ_of_lt hlt, hlast.1.2.2⟩, fun i hi => ?_⟩
    obtain hbelow | rfl := Nat.lt_succ_iff_lt_or_eq.mp hi.2.1
    · exact hlast.2 ⟨hi.1, hbelow, hi.2.2⟩
    · exact absurd hi.2.2 hnot
  have hseen' : underlinesBetween lines first (n + 1) = earlier ++ [last] := by
    rw [underlinesBetween_succ lines (hle.trans hlt.le), if_neg hnot, List.append_nil, hseen]
  refine ⟨_, ?_, .buffering candidate hfirst hlast' hseen'
    (not_mem_untitledAfter_succ htitled fun hmem => hnot hmem.2.1)⟩
  simp [Scanner.advance, Scanner.feed, hunder, hheld]

/-- At an underline with a title, a buffering scanner takes the title back and closes the
section before it. -/
private theorem Scanner.advance_buffering_titled {lines : List Text} {n first last : Nat}
    {line candidate : Text} {earlier : List Nat}
    (hline : lines[n]? = some line) (hunder : isUnderline line = true) (htitle : TitledAt lines n)
    (hfirst : IsLeast (titledUnderlines lines) first)
    (hlast : IsGreatest (underlinesIn lines first n) last)
    (hseen : underlinesBetween lines first n = earlier ++ [last])
    (htitled : ∀ i, i < n → i ∉ untitledAfter lines first) :
    ∃ next, Scanner.advance {
        phase := .buffering (titleAt lines last) (slice lines (last + 1) n).reverse
        candidate
        sections := sectionsAt lines (last - 1) earlier } line = .ok next ∧
      Scanner.After lines (n + 1) next := by
  have hat : UnderlineAt lines n := (underlineAt_iff hline).mpr hunder
  obtain ⟨hle, hlt, hlastAt⟩ := hlast.1
  have hnext : IsGreatest (underlinesIn lines first (n + 1)) n :=
    isGreatest_underlinesIn_self (hle.trans hlt.le) hat
  have hseen' : underlinesBetween lines first (n + 1) = (earlier ++ [last]) ++ [n] := by
    rw [underlinesBetween_succ lines (hle.trans hlt.le), if_pos hat, hseen]
  refine ⟨_, ?_, .buffering candidate hfirst hnext hseen'
    (not_mem_untitledAfter_succ htitled fun hmem => hmem.2.2 htitle)⟩
  obtain ⟨j, before, rfl, hbefore, hblank, hbeforeUnder⟩ := htitle
  have hne : last ≠ j := by
    rintro rfl
    simp [underlineAt_iff hbefore, hbeforeUnder] at hlastAt
  have hheld : slice lines (last + 1) (j + 1) = slice lines (last + 1) j ++ [before] :=
    slice_succ (by omega) hbefore
  simp [Scanner.advance, Scanner.feed, hunder, hheld, hblank, slice_self, titleAt_succ hbefore,
    sectionsAt_append_singleton]

/-- At an underline without a title, a buffering scanner stops. -/
private theorem Scanner.advance_buffering_untitled {lines : List Text} {n first last : Nat}
    {line candidate : Text} {sections : List Section}
    (hline : lines[n]? = some line) (hunder : isUnderline line = true)
    (htitle : ¬ TitledAt lines n) (hlast : IsGreatest (underlinesIn lines first n) last) :
    Scanner.advance {
        phase := .buffering (titleAt lines last) (slice lines (last + 1) n).reverse
        candidate
        sections } line = .error ⟨.untitledUnderline, locate (titleAt lines last)⟩ := by
  obtain ⟨hle, hlt, -⟩ := hlast.1
  obtain ⟨j, rfl⟩ : ∃ j, n = j + 1 := ⟨n - 1, by omega⟩
  obtain rfl | hbelow := Nat.eq_or_lt_of_le (Nat.le_of_lt_succ hlt)
  · simp [Scanner.advance, Scanner.feed, hunder, slice_self]
  · obtain ⟨hbound, -⟩ := List.getElem?_eq_some_iff.mp hline
    obtain ⟨before, hbefore⟩ : ∃ before, lines[j]? = some before :=
      ⟨_, List.getElem?_eq_getElem (by omega)⟩
    have hbeforeUnder : isUnderline before = false := by
      rw [← Bool.not_eq_true]
      intro hbeforeUnder
      have := hlast.2 ⟨by omega, Nat.lt_succ_self j, before, hbefore, hbeforeUnder⟩
      omega
    have hblank : Text.isAllBlank before = true := by
      simpa [titledAt_succ_iff hbefore, hbeforeUnder] using htitle
    have hheld : slice lines (last + 1) (j + 1) = slice lines (last + 1) j ++ [before] :=
      slice_succ hbelow hbefore
    simp [Scanner.advance, Scanner.feed, hunder, hheld, hblank]

/-- One step of a scan: the next line either brings the scanner to the state for the longer
prefix, or it is the first underline without a title. -/
theorem Scanner.After.advance {lines : List Text} {n : Nat} {line : Text} {scanner : Scanner}
    (hafter : Scanner.After lines n scanner) (hline : lines[n]? = some line) :
    (∃ next, scanner.advance line = .ok next ∧ Scanner.After lines (n + 1) next) ∨
      ∃ fault, scanner.advance line = .error fault ∧ RefusedBefore lines (n + 1) fault := by
  cases hafter with
  | seeking hnone htitled huntitled =>
    exact .inl (Scanner.advance_seeking hline hnone htitled huntitled)
  | buffering candidate hfirst hlast hseen htitled =>
    cases hunder : isUnderline line with
    | false =>
      exact .inl (Scanner.advance_buffering_line hline hunder hfirst hlast hseen htitled)
    | true =>
      by_cases htitle : TitledAt lines n
      · exact .inl
          (Scanner.advance_buffering_titled hline hunder htitle hfirst hlast hseen htitled)
      · refine .inr ⟨_, Scanner.advance_buffering_untitled hline hunder htitle hlast, ?_⟩
        refine ⟨_, n, _, hfirst, ⟨⟨?_, ?_, htitle⟩, ?_⟩, Nat.lt_succ_self n, hlast, rfl⟩
        · exact Nat.lt_of_le_of_lt hlast.1.1 hlast.1.2.1
        · exact (underlineAt_iff hline).mpr hunder
        · exact fun i hi => Nat.le_of_not_lt fun hlt => htitled i hlt hi

/-- A whole scan, by induction on the length of the prefix that was read. -/
theorem foldlM_advance_take (lines : List Text) {n : Nat} (hle : n ≤ lines.length) :
    (∃ scanner, (lines.take n).foldlM Scanner.advance {} = .ok scanner ∧
        Scanner.After lines n scanner) ∨
      ∃ fault, (lines.take n).foldlM Scanner.advance {} = .error fault ∧
        RefusedBefore lines n fault := by
  induction n with
  | zero => exact .inl ⟨{}, rfl, .start lines⟩
  | succ n ih =>
    have hline : lines[n]? = some lines[n] := List.getElem?_eq_getElem hle
    simp only [List.take_add_one, hline, Option.toList_some, List.foldlM_append, List.foldlM_cons,
      List.foldlM_nil, bind_pure]
    obtain ⟨scanner, hrun, hafter⟩ | ⟨fault, hrun, hrefused⟩ := ih (Nat.le_of_succ_le hle)
    · rw [hrun]
      obtain ⟨next, hstep, hnext⟩ | ⟨fault, hstep, hrefused⟩ := hafter.advance hline
      · exact .inl ⟨next, hstep, hnext⟩
      · exact .inr ⟨fault, hstep, hrefused⟩
    · rw [hrun]
      obtain ⟨first, i, last, hfirst, hi, hlt, hlast, rfl⟩ := hrefused
      exact .inr ⟨_, rfl, first, i, last, hfirst, hi, Nat.lt_succ_of_lt hlt, hlast, rfl⟩

theorem locate_text (title : Text) : (locate title).text = "undocumented:".toList ++ title := by
  rw [locate, Location.text_of_part]
  rfl

/-- Titled underlines lie two lines apart at least, since the line before each of them is no
underline. -/
private theorem pairwise_underlinesBetween {lines : List Text} {first stop : Nat}
    (htitled : ∀ i, i ∈ underlinesIn lines first stop → TitledAt lines i) :
    (underlinesBetween lines first stop).Pairwise fun i j => i + 2 ≤ j := by
  have hsorted : (underlinesBetween lines first stop).Pairwise (· < ·) :=
    List.pairwise_lt_range.filter _
  refine hsorted.imp_of_mem fun {i j} hi hj hlt => ?_
  have hunder := (mem_underlinesBetween.mp hi).2.2
  obtain ⟨before, line, rfl, hbefore, -, hplain⟩ := htitled j (mem_underlinesBetween.mp hj)
  have hne : i ≠ before := by
    rintro rfl
    simp [underlineAt_iff hbefore, hplain] at hunder
  omega

/-- The underlines of the sections, once none behind the first of them lacks a title. -/
private theorem sectionStarts_spec {lines : List Text} {first : Nat}
    (hfirst : IsLeast (titledUnderlines lines) first)
    (htitled : ∀ i, i < lines.length → i ∉ untitledAfter lines first) :
    ∃ rest, sectionStarts lines first = first :: rest ∧
      (first :: rest).Pairwise (fun i j => i + 2 ≤ j) ∧
      ∀ i ∈ first :: rest, 0 < i ∧ i < lines.length := by
  have hstarts : ∀ i, i ∈ underlinesIn lines first lines.length → TitledAt lines i := by
    intro i hi
    obtain rfl | hlt := Nat.eq_or_lt_of_le hi.1
    · exact hfirst.1.2
    · by_contra hnot
      exact htitled i hi.2.1 ⟨hlt, hi.2.2, hnot⟩
  have hgaps := pairwise_underlinesBetween hstarts
  have hmem : first ∈ sectionStarts lines first := by
    obtain ⟨line, hline, -⟩ := hfirst.1.1
    have hbound := (List.getElem?_eq_some_iff.mp hline).1
    exact mem_underlinesBetween.mpr ⟨Nat.le_refl first, hbound, hfirst.1.1⟩
  cases hcases : sectionStarts lines first with
  | nil => simp [hcases] at hmem
  | cons start rest =>
    rw [show underlinesBetween lines first lines.length = start :: rest from hcases] at hgaps
    have hstart : start ∈ underlinesIn lines first lines.length :=
      mem_underlinesBetween.mp (by rw [← sectionStarts, hcases]; exact List.mem_cons_self)
    obtain rfl : first = start := by
      rw [hcases] at hmem
      obtain heq | hrest := List.mem_cons.mp hmem
      · exact heq
      · have := (List.pairwise_cons.mp hgaps).1 first hrest
        have := hstart.1
        omega
    refine ⟨rest, rfl, hgaps, fun i hi => ?_⟩
    rw [← hcases] at hi
    have hin := mem_underlinesBetween.mp hi
    obtain ⟨j, line, rfl, -⟩ := hstarts i hin
    exact ⟨Nat.succ_pos j, hin.2.1⟩

/-- The split into sections, told by positions. Without a titled underline there is no section.
Otherwise the first untitled underline behind the first titled one is refused, with the title of
the section that is open there; and if there is none, the underlines from the first titled one on
begin the sections, each section keeps the lines up to the next title, and no line from the first
title on is lost, repeated or moved. -/
theorem sectionsOf_positions (lines : List Text) :
    (titledUnderlines lines = ∅ → sectionsOf lines = .ok []) ∧
    ∀ first, IsLeast (titledUnderlines lines) first →
      (∀ i, IsLeast (untitledAfter lines first) i →
        ∃ last fault, IsGreatest (underlinesIn lines first i) last ∧
          sectionsOf lines = .error fault ∧ fault.kind = .shape ∧
          fault.location?.map Location.text =
            some ("undocumented:".toList ++ titleAt lines last)) ∧
      (untitledAfter lines first = ∅ →
        ∃ sections : List Section, sectionsOf lines = .ok sections ∧
          (sectionStarts lines first).head? = some first ∧
          sections.length = (sectionStarts lines first).length ∧
          (∀ k i, (sectionStarts lines first)[k]? = some i →
            sections[k]? = some (Section.mk (titleAt lines i) (slice lines (i + 1)
              ((sectionStarts lines first)[k + 1]?.elim lines.length (· - 1))))) ∧
          lines.drop (first - 1) =
            ((sectionStarts lines first).zip sections).flatMap fun (i, part) =>
              lines.getD (i - 1) [] :: lines.getD i [] :: part.lines) := by
  have hbelow : ∀ i, UnderlineAt lines i → i < lines.length := by
    rintro i ⟨line, hline, -⟩
    exact (List.getElem?_eq_some_iff.mp hline).1
  have hrun := foldlM_advance_take lines (Nat.le_refl lines.length)
  rw [List.take_length] at hrun
  obtain ⟨scanner, hscan, hafter⟩ | ⟨fault, hscan, hrefused⟩ := hrun
  · have hresult : sectionsOf lines = .ok scanner.finish.sections := by
      rw [sectionsOf, hscan]
      rfl
    cases hafter with
    | seeking hnone =>
      refine ⟨fun _ => hresult, fun first hfirst => ?_⟩
      exact absurd hfirst.1 (hnone first (hbelow first hfirst.1.1))
    | @buffering candidate opened last earlier hopened hlast hseen htitled =>
      refine ⟨fun hempty => absurd hopened.1 (by simp [hempty]), fun first hfirst => ?_⟩
      obtain rfl := hopened.unique hfirst
      refine ⟨fun i hi => absurd hi.1 (htitled i (hbelow i hi.1.2.1)), fun _ => ?_⟩
      have hsections : sectionsOf lines =
          .ok (sectionsAt lines lines.length (sectionStarts lines opened)) := by
        rw [hresult, sectionStarts, hseen, sectionsAt_append_singleton]
        simp [Scanner.finish]
      obtain ⟨rest, hstarts, hgaps, hbounds⟩ := sectionStarts_spec hopened htitled
      refine ⟨_, hsections, by simp [hstarts], length_sectionsAt _ _ _, ?_, ?_⟩
      · exact fun k i hi => getElem?_sectionsAt lines lines.length hi
      · rw [hstarts, flatMap_sectionsAt hgaps hbounds (Nat.le_refl _), slice_length]
  · have hresult : sectionsOf lines = .error fault := by
      rw [sectionsOf, hscan]
      rfl
    obtain ⟨opened, i, last, hopened, hi, -, hlast, rfl⟩ := hrefused
    refine ⟨fun hempty => absurd hopened.1 (by simp [hempty]), fun first hfirst => ?_⟩
    obtain rfl := hopened.unique hfirst
    refine ⟨fun j hj => ?_, fun hnone => absurd hi.1 (by simp [hnone])⟩
    obtain rfl := hi.unique hj
    exact ⟨last, _, hlast, hresult, rfl, congrArg some (locate_text (titleAt lines last))⟩

end OpcodeAtlas.Listing
