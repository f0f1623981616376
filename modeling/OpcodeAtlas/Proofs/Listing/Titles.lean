import OpcodeAtlas.Proofs.Listing.Calls

namespace OpcodeAtlas.Listing

/-- The line that was fed last, whether it was taken or refused. -/
def lastFed? (calls : List Call) : Option Text :=
  (calls.filterMap fun
    | .feed line => some line
    | .finish => none).getLast?

/-- The line fed last is a title for an underline that is fed next: it is neither blank nor an
underline itself. -/
def TitleAbove (calls : List Call) (title : Text) : Prop :=
  ∃ line, lastFed? calls = some line ∧ Text.isAllBlank line = false ∧
    isUnderline line = false ∧ title = Text.trim line

/-- A section was closed by the end of the text, and no line was fed since. -/
def EndsText (calls : List Call) : Prop :=
  ∃ fed n, calls = fed ++ List.replicate (n + 1) .finish ∧ (Scanner.run {} fed).phase ≠ .seeking

namespace Scanner

/-- The line opens a section under the title: it is taken, and nothing is held back under the title
yet. -/
def Opens (scanner : Scanner) (line title : Text) : Prop :=
  (scanner.call (.feed line)).2 = none ∧
    (scanner.call (.feed line)).1.phase = .buffering title []

/-- The title that an underline would open a section with. -/
def Due (scanner : Scanner) (title : Text) : Prop :=
  match scanner.phase with
  | .seeking => scanner.candidate ≠ [] ∧ title = scanner.candidate
  | .buffering _ held => ∃ last ∈ held.head?, Text.isAllBlank last = false ∧ title = Text.trim last

theorem due_of_seeking {scanner : Scanner} (hphase : scanner.phase = .seeking) {title : Text} :
    scanner.Due title ↔ scanner.candidate ≠ [] ∧ title = scanner.candidate := by
  rw [Due, hphase]

theorem due_of_buffering {scanner : Scanner} {opened : Text} {held : List Text}
    (hphase : scanner.phase = .buffering opened held) {title : Text} :
    scanner.Due title ↔
      ∃ last ∈ held.head?, Text.isAllBlank last = false ∧ title = Text.trim last := by
  rw [Due, hphase]

theorem not_due_of_untitled {scanner : Scanner} {opened : Text} {held : List Text}
    (hphase : scanner.phase = .buffering opened held)
    (huntitled : ∀ last ∈ held.head?, Text.isAllBlank last = true) {title : Text} :
    ¬ scanner.Due title := by
  rw [due_of_buffering hphase]
  rintro ⟨last, hlast, hblank, -⟩
  exact absurd (huntitled last hlast) (by simp [hblank])

/-- Underlines open sections, and nothing else does. -/
theorem opens_iff {scanner : Scanner} {line title : Text} :
    scanner.Opens line title ↔ isUnderline line = true ∧ scanner.Due title := by
  have hstep := scanner.step_feed line
  rw [Opens]
  generalize scanner.call (.feed line) = result at hstep
  cases hstep with
  | candidate hphase hplain => simp [hphase, hplain]
  | preamble hphase hunder hnone => simp [due_of_seeking hphase, hphase, hnone]
  | first hphase hunder hsome =>
    rw [due_of_seeking hphase, eq_comm (a := title)]
    simp [hunder, hsome]
  | hold hphase hplain => simp [hplain]
  | refuse hphase hunder huntitled =>
    exact iff_of_false nofun fun hdue => not_due_of_untitled hphase huntitled hdue.2
  | next hphase hunder htitled =>
    rw [due_of_buffering hphase, List.head?_cons]
    simp only [Option.mem_some_iff, exists_eq_left', htitled, hunder, true_and,
      Phase.buffering.injEq, and_true]
    exact eq_comm

/-- Whatever came before, the line fed last decides which title is due. -/
theorem due_feed_iff {scanner : Scanner} {line title : Text} :
    (scanner.call (.feed line)).1.Due title ↔
      Text.isAllBlank line = false ∧ isUnderline line = false ∧ title = Text.trim line := by
  have hstep := scanner.step_feed line
  generalize scanner.call (.feed line) = result at hstep
  cases hstep with
  | candidate hphase hplain => simp [Due, hphase, hplain, Text.trim_eq_nil_iff]
  | preamble hphase hunder hnone => simp [due_of_seeking hphase, hunder, hnone]
  | first hphase hunder => simp [Due, hunder]
  | hold hphase hplain => simp [Due, hplain]
  | refuse hphase hunder huntitled =>
    exact iff_of_false (not_due_of_untitled hphase huntitled) (by simp [hunder])
  | next hphase hunder => simp [Due, hunder]

end Scanner

theorem lastFed?_feed (calls : List Call) (line : Text) :
    lastFed? (calls ++ [.feed line]) = some line := by
  simp [lastFed?]

theorem lastFed?_finish (calls : List Call) : lastFed? (calls ++ [.finish]) = lastFed? calls := by
  simp [lastFed?]

theorem titleAbove_feed_iff {calls : List Call} {line title : Text} :
    TitleAbove (calls ++ [.feed line]) title ↔
      Text.isAllBlank line = false ∧ isUnderline line = false ∧ title = Text.trim line := by
  simp [TitleAbove, lastFed?_feed]

theorem titleAbove_finish_iff {calls : List Call} {title : Text} :
    TitleAbove (calls ++ [.finish]) title ↔ TitleAbove calls title := by
  rw [TitleAbove, lastFed?_finish, TitleAbove]

theorem endsText_concat_iff {calls : List Call} {last : Call} :
    EndsText (calls ++ [last]) ↔
      last = .finish ∧ (EndsText calls ∨ (Scanner.run {} calls).phase ≠ .seeking) := by
  constructor
  · rintro ⟨fed, n, hcalls, hopen⟩
    rw [List.replicate_succ', ← List.append_assoc] at hcalls
    obtain ⟨rfl, hlast⟩ := List.append_inj' hcalls rfl
    refine ⟨List.singleton_inj.mp hlast, ?_⟩
    cases n with
    | zero => exact Or.inr (by simpa using hopen)
    | succ n => exact Or.inl ⟨fed, n, rfl, hopen⟩
  · rintro ⟨rfl, ⟨fed, n, rfl, hopen⟩ | hopen⟩
    · refine ⟨fed, n + 1, ?_, hopen⟩
      rw [List.append_assoc, ← List.replicate_succ']
    · exact ⟨calls, 0, rfl, hopen⟩

theorem not_endsText_nil : ¬ EndsText [] := by
  rintro ⟨fed, n, hcalls, -⟩
  simp at hcalls

namespace Scanner

/-- As long as no text was ended, it is the line fed last that gives an underline its title. -/
theorem due_run_iff {calls : List Call} (hends : ¬ EndsText calls) {title : Text} :
    (run {} calls).Due title ↔ TitleAbove calls title := by
  induction calls using List.reverseRecOn with
  | nil => exact iff_of_false (fun hdue => hdue.1 rfl) nofun
  | append_singleton calls last ih =>
    rw [run_concat]
    cases last with
    | feed line => rw [due_feed_iff, titleAbove_feed_iff]
    | finish =>
      rw [endsText_concat_iff, not_and, not_or, not_not] at hends
      obtain ⟨hearlier, hphase⟩ := hends rfl
      rw [call_finish_of_seeking hphase, titleAbove_finish_iff]
      exact ih hearlier

/-- An earlier line opened a section under the title that stood above it. -/
def OpenedBefore (calls : List Call) (title : Text) : Prop :=
  ∃ earlier line later, calls = earlier ++ .feed line :: later ∧
    (run {} earlier).Opens line title ∧ TitleAbove earlier title

theorem OpenedBefore.append {calls : List Call} {title : Text}
    (hopened : OpenedBefore calls title) (more : List Call) :
    OpenedBefore (calls ++ more) title := by
  obtain ⟨earlier, line, later, rfl, hopens, htitle⟩ := hopened
  exact ⟨earlier, line, later ++ more, by simp, hopens, htitle⟩

/-- Of the line that ended the search for the first title the scanner keeps what it is no longer to
use: the title of a section that was opened rightly, and is open or recorded. -/
structure Keeps (calls : List Call) (scanner : Scanner) : Prop where
  ne_nil : scanner.candidate ≠ []
  opened : OpenedBefore calls scanner.candidate
  listed : (∃ part ∈ scanner.sections, part.title = scanner.candidate) ∨
    ∃ held, scanner.phase = .buffering scanner.candidate held

theorem Keeps.append {calls : List Call} {scanner : Scanner} (hkeeps : Keeps calls scanner)
    (more : List Call) : Keeps (calls ++ more) scanner :=
  ⟨hkeeps.ne_nil, hkeeps.opened.append more, hkeeps.listed⟩

/-- When the open section is closed, its title is recorded. -/
theorem Keeps.listed_closed {calls : List Call} {scanner : Scanner} {title : Text}
    {held lines : List Text} (hkeeps : Keeps calls scanner)
    (hphase : scanner.phase = .buffering title held) :
    ∃ part ∈ scanner.sections ++ [(⟨title, lines⟩ : Section)],
      part.title = scanner.candidate := by
  obtain ⟨part, hpart, htitle⟩ | ⟨others, hother⟩ := hkeeps.listed
  · exact ⟨part, List.mem_append_left _ hpart, htitle⟩
  · obtain ⟨rfl, -⟩ := Phase.buffering.inj (hphase.symm.trans hother)
    exact ⟨_, List.mem_append_right _ List.mem_cons_self, rfl⟩

/-- From the first underline with a title on, the scanner keeps that title, also behind the end of
the text. It is given up only for a new line. -/
theorem keeps_run {calls : List Call}
    (hbegun : EndsText calls ∨ (run {} calls).phase ≠ .seeking) : Keeps calls (run {} calls) := by
  induction calls using List.reverseRecOn with
  | nil => exact absurd hbegun (not_or.mpr ⟨not_endsText_nil, not_not.mpr rfl⟩)
  | append_singleton calls last ih =>
    rw [endsText_concat_iff, run_concat] at hbegun
    rw [run_concat]
    have hstep := (run {} calls).step_call last
    generalize (run {} calls).call last = result at hstep hbegun
    cases hstep with
    | candidate hphase => simp [hphase] at hbegun
    | preamble hphase => simp [hphase] at hbegun
    | @first line hphase hunder hsome =>
      by_cases hends : EndsText calls
      · have hkeeps := ih (Or.inl hends)
        exact ⟨hsome, hkeeps.opened.append _, Or.inr ⟨[], rfl⟩⟩
      · have hdue := (due_of_seeking hphase).mpr ⟨hsome, rfl⟩
        have hopens := opens_iff.mpr ⟨hunder, hdue⟩
        have hopened : OpenedBefore (calls ++ [.feed line]) (run {} calls).candidate :=
          ⟨calls, line, [], rfl, hopens, (due_run_iff hends).mp hdue⟩
        exact ⟨hsome, hopened, Or.inr ⟨[], rfl⟩⟩
    | @hold line title held hphase =>
      have hkeeps := ih (Or.inr (by simp [hphase]))
      refine ⟨hkeeps.ne_nil, hkeeps.opened.append _, hkeeps.listed.imp_right ?_⟩
      rintro ⟨others, hother⟩
      obtain ⟨rfl, -⟩ := Phase.buffering.inj (hphase.symm.trans hother)
      exact ⟨line :: held, rfl⟩
    | refuse hphase => exact (ih (Or.inr (by simp [hphase]))).append _
    | next hphase =>
      have hkeeps := ih (Or.inr (by simp [hphase]))
      exact ⟨hkeeps.ne_nil, hkeeps.opened.append _, Or.inl (hkeeps.listed_closed hphase)⟩
    | idle hphase =>
      have hends : EndsText calls := by simpa [hphase] using hbegun
      exact (ih (Or.inl hends)).append _
    | close hphase =>
      have hkeeps := ih (Or.inr (by simp [hphase]))
      exact ⟨hkeeps.ne_nil, hkeeps.opened.append _, Or.inl (hkeeps.listed_closed hphase)⟩

theorem phase_of_endsText {calls : List Call} (hends : EndsText calls) :
    (run {} calls).phase = .seeking := by
  obtain ⟨fed, n, rfl, -⟩ := hends
  rw [List.replicate_succ', ← List.append_assoc, run_concat]
  exact (step_finish _).of_finish.1

end Scanner

/-- Which title a section is opened under, after any calls on a scanner. As long as no text was ended,
it is the line immediately above the underline, whatever was refused in between, and there is no
section without such a line. Directly behind the end of a text it is not: there every underline
opens a section, under a title that stood above an earlier underline and whose section is recorded
already. -/
theorem Scanner.opens_under_line_above (calls : List Call) :
    let scanner := Scanner.run {} calls
    (¬ EndsText calls → ∀ line title,
      scanner.Opens line title ↔ isUnderline line = true ∧ TitleAbove calls title) ∧
    (EndsText calls → ∃ title,
      (∀ line other, scanner.Opens line other ↔ isUnderline line = true ∧ other = title) ∧
        OpenedBefore calls title ∧ ∃ part ∈ scanner.sections, part.title = title) := by
  intro scanner
  refine ⟨fun hends line title => ?_, fun hends => ?_⟩
  · rw [opens_iff, due_run_iff hends]
  · have hphase := phase_of_endsText hends
    have hkeeps := keeps_run (Or.inl hends)
    refine ⟨scanner.candidate, fun line other => ?_, hkeeps.opened, ?_⟩
    · rw [opens_iff, due_of_seeking hphase, and_iff_right hkeeps.ne_nil]
    · refine hkeeps.listed.resolve_right ?_
      rintro ⟨held, hopen⟩
      exact absurd (hphase.symm.trans hopen) nofun

/-- A text of one section, and its end. -/
def endedCalls : List Call :=
  [.feed "LAX (LAX)", .feed "=====", .finish]

/-- The underline behind the end of the text opens the recorded section a second time, though the
line fed before it is an underline itself. -/
theorem Scanner.endedCalls_opens_again :
    (Scanner.run {} endedCalls).Opens "=====" "LAX (LAX)" ∧
      (Scanner.run {} endedCalls).sections = [⟨"LAX (LAX)", []⟩] ∧
      lastFed? endedCalls = some "=====".toList ∧
      Text.trim "=====" ≠ "LAX (LAX)".toList := by
  refine ⟨⟨rfl, rfl⟩, rfl, rfl, by decide⟩

end OpcodeAtlas.Listing
