import OpcodeAtlas.Proofs.Listing.PrintedSection
import OpcodeAtlas.Proofs.Listing.Reading

namespace OpcodeAtlas.Listing

namespace Scanner

/-- Before the first title nothing is kept but the last line. -/
theorem foldlM_advance_preamble {lines : List Text} (hplain : ∀ line ∈ lines, isUnderline line = false)
    (candidate : Text) :
    ∃ last, lines.foldlM advance { candidate } = .ok { candidate := last } := by
  induction lines generalizing candidate with
  | nil => exact ⟨candidate, rfl⟩
  | cons line rest ih =>
    obtain ⟨hline, hrest⟩ := List.forall_mem_cons.mp hplain
    obtain ⟨last, hlast⟩ := ih hrest (Text.trim line)
    refine ⟨last, ?_⟩
    rw [List.foldlM_cons]
    exact bind_eq_ok_iff.mpr ⟨_, by simp [advance, feed, hline], hlast⟩

/-- An open section holds back the lines that are no underlines. -/
theorem foldlM_advance_body {lines : List Text} (hplain : ∀ line ∈ lines, isUnderline line = false)
    (scanner : Scanner) (title : Text) (held : List Text) :
    lines.foldlM advance { scanner with phase := .buffering title held } =
      .ok { scanner with phase := .buffering title (lines.reverse ++ held) } := by
  induction lines generalizing held with
  | nil => rfl
  | cons line rest ih =>
    obtain ⟨hline, hrest⟩ := List.forall_mem_cons.mp hplain
    have hstep : advance { scanner with phase := .buffering title held } line =
        .ok { scanner with phase := .buffering title (line :: held) } := by
      simp [advance, feed, hline]
    rw [List.foldlM_cons, List.reverse_cons, List.append_assoc, List.singleton_append]
    exact bind_eq_ok_iff.mpr ⟨_, hstep, ih hrest (line :: held)⟩

private theorem foldlM_advance_lines {part : PrintedSection} {scanner titled opened : Scanner}
    (htitle : advance scanner part.title = .ok titled)
    (hunderline : advance titled part.underline = .ok opened) :
    part.lines.foldlM advance scanner = part.body.foldlM advance opened := by
  rw [PrintedSection.lines, List.foldlM_cons, htitle]
  change (part.underline :: part.body).foldlM advance titled = _
  rw [List.foldlM_cons, hunderline]
  rfl

/-- The first section opens at its underline, since its title is at hand. -/
theorem foldlM_advance_first (part : PrintedSection) (candidate : Text) :
    part.lines.foldlM advance { candidate } =
      .ok { phase := .buffering part.found.title part.body.reverse
            candidate := part.found.title } := by
  have htitle : advance { candidate } part.title = .ok { candidate := part.found.title } := by
    simp [advance, feed, part.isUnderline_title, PrintedSection.found]
  have hunderline : advance { candidate := part.found.title } part.underline =
      .ok { phase := .buffering part.found.title [], candidate := part.found.title } := by
    simp [advance, feed, part.isUnderline_underline, PrintedSection.found, part.trim_title_ne_nil]
  have hbody := foldlM_advance_body (fun _ => part.isUnderline_body)
    { candidate := part.found.title } part.found.title []
  rw [List.append_nil] at hbody
  exact (foldlM_advance_lines htitle hunderline).trans hbody

/-- A section closes the one before it, which gives back the title. -/
theorem foldlM_advance_next (part : PrintedSection) (scanner : Scanner) (title : Text)
    (held : List Text) :
    part.lines.foldlM advance { scanner with phase := .buffering title held } =
      .ok { scanner with
        phase := .buffering part.found.title part.body.reverse
        sections := scanner.sections ++ [⟨title, held.reverse⟩] } := by
  have hblank : Text.isAllBlank part.title = false := by
    rw [← Bool.not_eq_true, ← Text.trim_eq_nil_iff]
    exact part.trim_title_ne_nil
  have htitle : advance { scanner with phase := .buffering title held } part.title =
      .ok { scanner with phase := .buffering title (part.title :: held) } := by
    simp [advance, feed, part.isUnderline_title]
  have hunderline : advance { scanner with phase := .buffering title (part.title :: held) }
      part.underline = .ok { scanner with
        phase := .buffering part.found.title []
        sections := scanner.sections ++ [⟨title, held.reverse⟩] } := by
    simp [advance, feed, part.isUnderline_underline, hblank, PrintedSection.found]
  have hbody := foldlM_advance_body (fun _ => part.isUnderline_body)
    { scanner with sections := scanner.sections ++ [⟨title, held.reverse⟩] } part.found.title []
  rw [List.append_nil] at hbody
  exact (foldlM_advance_lines htitle hunderline).trans hbody

/-- Sections behind an open one are found one after the other, the open one before them. -/
theorem foldlM_advance_sections (parts : List PrintedSection) (scanner : Scanner) (title : Text)
    (held : List Text) :
    ∃ final, (parts.flatMap PrintedSection.lines).foldlM advance
        { scanner with phase := .buffering title held } = .ok final ∧
      final.finish.sections =
        scanner.sections ++ ⟨title, held.reverse⟩ :: parts.map PrintedSection.found := by
  induction parts generalizing scanner title held with
  | nil => exact ⟨_, rfl, rfl⟩
  | cons part rest ih =>
    obtain ⟨final, hfinal, hsections⟩ := ih
      { scanner with sections := scanner.sections ++ [⟨title, held.reverse⟩] }
      part.found.title part.body.reverse
    refine ⟨final, ?_, ?_⟩
    · rw [List.flatMap_cons, List.foldlM_append]
      exact bind_eq_ok_iff.mpr ⟨_, foldlM_advance_next part scanner title held, hfinal⟩
    · rw [hsections, List.reverse_reverse, List.append_assoc, List.map_cons]
      rfl

end Scanner

/-- The sections of a listing are found as they were printed. -/
theorem sectionsOf_printed {preamble : List Text} {parts : List PrintedSection}
    (hpreamble : ∀ line ∈ preamble, isUnderline line = false) (hparts : parts ≠ []) :
    sectionsOf (preamble ++ parts.flatMap PrintedSection.lines) =
      .ok (parts.map PrintedSection.found) := by
  obtain ⟨first, rest, rfl⟩ := List.exists_cons_of_ne_nil hparts
  obtain ⟨candidate, hseek⟩ := Scanner.foldlM_advance_preamble hpreamble []
  obtain ⟨final, hfinal, hsections⟩ := Scanner.foldlM_advance_sections rest
    { candidate := first.found.title } first.found.title first.body.reverse
  refine bind_eq_ok_iff.mpr ⟨final, ?_, ?_⟩
  · rw [List.flatMap_cons, List.foldlM_append]
    refine bind_eq_ok_iff.mpr ⟨_, hseek, ?_⟩
    rw [List.foldlM_append]
    exact bind_eq_ok_iff.mpr ⟨_, Scanner.foldlM_advance_first first candidate, hfinal⟩
  · rw [hsections, List.reverse_reverse]
    rfl

namespace PrintedSection

/-- The section as it comes out of a document that ends with it. -/
def atEnd (part : PrintedSection) : PrintedSection :=
  { part with
    notes := Text.keptLines part.notes
    notes_separate := fun line hline =>
      part.notes_separate line (Text.head?_of_head?_keptLines hline)
    notes_plain := fun line hline =>
      part.notes_plain line (Text.keptLines_subset part.notes hline) }

/-- A row is never empty, so no other line than a note can be lost. -/
theorem lines_atEnd (part : PrintedSection) : part.atEnd.lines = Text.keptLines part.lines := by
  have hrows : Text.keptLines (part.rows.map PrintedRow.line) = part.rows.map PrintedRow.line := by
    rw [Text.keptLines, if_neg]
    intro hlast
    obtain ⟨row, -, hempty⟩ := List.mem_map.mp (List.mem_of_getLast? hlast)
    exact List.ne_nil_of_mem row.bar_mem_line hempty
  have hrows_ne : part.rows.map PrintedRow.line ≠ [] := by
    simpa using part.rows_ne_nil
  have htail : Text.keptLines (part.rows.map PrintedRow.line ++ part.notes) =
      part.rows.map PrintedRow.line ++ Text.keptLines part.notes := by
    by_cases hnotes : part.notes = []
    · rw [hnotes, List.append_nil, hrows]
      exact (List.append_nil _).symm
    · rw [Text.keptLines_append hnotes]
  have hsplit (tail : List Text) :
      part.title :: part.underline :: (part.description ++ part.rule :: tail) =
        (part.title :: part.underline :: (part.description ++ [part.rule])) ++ tail := by
    simp
  have htail_ne : part.rows.map PrintedRow.line ++ part.notes ≠ [] :=
    List.append_ne_nil_of_left_ne_nil hrows_ne _
  calc part.atEnd.lines
      = (part.title :: part.underline :: (part.description ++ [part.rule])) ++
          (part.rows.map PrintedRow.line ++ Text.keptLines part.notes) := hsplit _
    _ = Text.keptLines ((part.title :: part.underline :: (part.description ++ [part.rule])) ++
          (part.rows.map PrintedRow.line ++ part.notes)) := by
        rw [Text.keptLines_append htail_ne, htail]
    _ = Text.keptLines part.lines := congrArg Text.keptLines (hsplit _).symm

end PrintedSection

namespace PrintedListing

/-- The lines of a printed text are those of a listing whose last section ends the document. -/
theorem exists_lines_text (listing : PrintedListing) :
    ∃ init last, listing.sections = init ++ [last] ∧
      listing.text.lines =
        listing.preamble ++ (init ++ [last.atEnd]).flatMap PrintedSection.lines := by
  obtain ⟨init, last, hsections⟩ : ∃ init last, listing.sections = init ++ [last] :=
    ⟨_, _, (List.dropLast_append_getLast listing.sections_ne_nil).symm⟩
  have htext : listing.text.lines = Text.keptLines listing.lines :=
    Text.lines_unlines listing.no_break
  refine ⟨init, last, hsections, ?_⟩
  rw [htext, lines, hsections, List.flatMap_append, List.flatMap_append, List.flatMap_singleton,
    List.flatMap_singleton, PrintedSection.lines_atEnd, ← List.append_assoc, ← List.append_assoc]
  exact Text.keptLines_append (List.cons_ne_nil _ _) _

end PrintedListing

/-- What is printed is read back: a variant for each row, in the order of the rows. -/
theorem extract_printed (listing : PrintedListing) :
    (extract listing.text).outcome = .ok listing.source := by
  obtain ⟨init, last, hsections, hlines⟩ := listing.exists_lines_text
  have hne : init ++ [last.atEnd] ≠ [] := by simp
  have hfound := sectionsOf_printed listing.preamble_plain hne
  have hread : ((init ++ [last.atEnd]).map PrintedSection.found).mapM Section.read =
      .ok (listing.sections.map fun part => (part.mnemonic, part.variants)) := by
    rw [mapM_map_eq_ok fun part _ => part.read_found, hsections, List.map_append, List.map_append]
    rfl
  rw [extract_outcome, hlines]
  refine bind_eq_ok_iff.mpr ⟨_, hfound, ?_⟩
  rw [if_neg (by simp)]
  refine bind_eq_ok_iff.mpr ⟨_, hread, ?_⟩
  rw [List.map_map, List.flatMap_map]
  rfl

example : (default : PrintedListing).text =
    "(NOP)\n=====\n---\nImplied|NOP| $1A| 1| -".toList := by
  cbv

end OpcodeAtlas.Listing
