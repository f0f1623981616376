import OpcodeAtlas.Listing.Calls
import OpcodeAtlas.Proofs.Text.Trim

namespace OpcodeAtlas.Listing

/-- What a title is: it is not empty, has no blanks around it and is no underline. -/
structure IsTitle (title : Text) : Prop where
  ne_nil : title ≠ []
  trim_eq : Text.trim title = title
  plain : isUnderline title = false

theorem isUnderline_trim (line : Text) : isUnderline (Text.trim line) = isUnderline line := by
  simp only [isUnderline, Text.trim_trim]

theorem isTitle_trim {line : Text} (hplain : isUnderline line = false)
    (hne : Text.trim line ≠ []) : IsTitle (Text.trim line) :=
  ⟨hne, Text.trim_trim line, (isUnderline_trim line).trans hplain⟩

namespace Scanner

/-- What a call can do to a scanner, guard by guard. -/
inductive Step (scanner : Scanner) : Call → Scanner × Option Fault → Prop where
  /-- While seeking, a line that is no underline becomes the candidate. -/
  | candidate {line : Text} (hphase : scanner.phase = .seeking) (hplain : isUnderline line = false) :
    Step scanner (.feed line) ({ scanner with candidate := Text.trim line }, none)
  /-- An underline without a candidate passes as preamble. -/
  | preamble {line : Text} (hphase : scanner.phase = .seeking) (hunder : isUnderline line = true)
      (hnone : scanner.candidate = []) :
    Step scanner (.feed line) (scanner, none)
  /-- An underline opens a section under the candidate. -/
  | first {line : Text} (hphase : scanner.phase = .seeking) (hunder : isUnderline line = true)
      (hsome : scanner.candidate ≠ []) :
    Step scanner (.feed line) ({ scanner with phase := .buffering scanner.candidate [] }, none)
  /-- Inside a section a line that is no underline is held back. -/
  | hold {line title : Text} {held : List Text} (hphase : scanner.phase = .buffering title held)
      (hplain : isUnderline line = false) :
    Step scanner (.feed line) ({ scanner with phase := .buffering title (line :: held) }, none)
  /-- An underline is refused if the line before it cannot be its title. -/
  | refuse {line title : Text} {held : List Text} (hphase : scanner.phase = .buffering title held)
      (hunder : isUnderline line = true)
      (huntitled : ∀ last ∈ held.head?, Text.isAllBlank last = true) :
    Step scanner (.feed line) (scanner, some ⟨.untitledUnderline, locate title⟩)
  /-- An underline takes its title back from the section it closes. -/
  | next {line title last : Text} {earlier : List Text}
      (hphase : scanner.phase = .buffering title (last :: earlier))
      (hunder : isUnderline line = true) (htitled : Text.isAllBlank last = false) :
    Step scanner (.feed line) ({ scanner with
      phase := .buffering (Text.trim last) []
      sections := scanner.sections ++ [⟨title, earlier.reverse⟩] }, none)
  /-- There is no section to close. -/
  | idle (hphase : scanner.phase = .seeking) : Step scanner .finish (scanner, none)
  | close {title : Text} {held : List Text} (hphase : scanner.phase = .buffering title held) :
    Step scanner .finish ({ scanner with
      phase := .seeking
      closedTitle? := some title
      sections := scanner.sections ++ [⟨title, held.reverse⟩] }, none)

theorem step_feed (scanner : Scanner) (line : Text) :
    Step scanner (.feed line) (scanner.call (.feed line)) := by
  cases hphase : scanner.phase with
  | seeking =>
    cases hunder : isUnderline line with
    | false =>
      have hstep := Step.candidate hphase hunder
      simpa [call, feed, hphase, hunder] using hstep
    | true =>
      by_cases hnone : scanner.candidate = []
      · have hstep := Step.preamble hphase hunder hnone
        simpa [call, feed, hphase, hunder, hnone] using hstep
      · have hstep := Step.first hphase hunder hnone
        simpa [call, feed, hphase, hunder, hnone] using hstep
  | buffering title held =>
    cases hunder : isUnderline line with
    | false =>
      have hstep := Step.hold hphase hunder
      simpa [call, feed, hphase, hunder] using hstep
    | true =>
      cases held with
      | nil =>
        have hstep := Step.refuse hphase hunder (by simp)
        simpa [call, feed, hphase, hunder] using hstep
      | cons last earlier =>
        cases hblank : Text.isAllBlank last with
        | false =>
          have hstep := Step.next hphase hunder hblank
          simpa [call, feed, hphase, hunder, hblank] using hstep
        | true =>
          have hstep := Step.refuse hphase hunder (by simp [hblank])
          simpa [call, feed, hphase, hunder, hblank] using hstep

theorem step_finish (scanner : Scanner) : Step scanner .finish (scanner.call .finish) := by
  cases hphase : scanner.phase with
  | seeking =>
    have hstep := Step.idle hphase
    simpa [call, finish, hphase] using hstep
  | buffering title held =>
    have hstep := Step.close hphase
    simpa [call, finish, hphase] using hstep

/-- Every call is one of the steps. All that is said of runs below goes through this. -/
theorem step_call (scanner : Scanner) (call : Call) : Step scanner call (scanner.call call) := by
  cases call with
  | feed line => exact step_feed scanner line
  | finish => exact step_finish scanner

/-- A scan ends early only where a title is missing. -/
theorem exists_title_of_advance_eq_error {scanner : Scanner} {line : Text} {fault : Fault}
    (herror : scanner.advance line = .error fault) :
    ∃ title, fault = ⟨.untitledUnderline, locate title⟩ := by
  have hstep : Step scanner (.feed line) (scanner.feed line) := step_feed scanner line
  rw [advance] at herror
  cases hfeed : scanner.feed line with
  | mk next fault? =>
    rw [hfeed] at hstep herror
    cases hstep with
    | refuse => exact ⟨_, (Except.error.inj herror).symm⟩
    | candidate | preamble | first | hold | next => cases herror

theorem run_append (scanner : Scanner) (calls more : List Call) :
    scanner.run (calls ++ more) = (scanner.run calls).run more :=
  List.foldl_append

theorem run_concat (scanner : Scanner) (calls : List Call) (last : Call) :
    scanner.run (calls ++ [last]) = ((scanner.run calls).call last).1 :=
  run_append scanner calls [last]

theorem answers_cons (scanner : Scanner) (call : Call) (rest : List Call) :
    scanner.answers (call :: rest) =
      ((scanner.call call).1.view, (scanner.call call).2) :: (scanner.call call).1.answers rest :=
  rfl

/-- What holds of a scanner whatever it was called with. The hidden candidate has to be covered, since
it becomes the title of a section. -/
structure Sound (scanner : Scanner) : Prop where
  candidate : scanner.candidate ≠ [] → IsTitle scanner.candidate
  opened : ∀ title held, scanner.phase = .buffering title held →
    IsTitle title ∧ ∀ line ∈ held, isUnderline line = false
  recorded : ∀ part ∈ scanner.sections,
    IsTitle part.title ∧ ∀ line ∈ part.lines, isUnderline line = false

theorem Sound.start : Sound {} :=
  ⟨fun hsome => absurd rfl hsome, nofun, nofun⟩

variable {scanner : Scanner} {call : Call} {result : Scanner × Option Fault}

/-- A section that is closed is recorded with what was held back of it. -/
private theorem recorded_append {sections : List Section} {title : Text} {held : List Text}
    (hrecorded : ∀ part ∈ sections,
      IsTitle part.title ∧ ∀ line ∈ part.lines, isUnderline line = false)
    (htitle : IsTitle title) (hheld : ∀ line ∈ held, isUnderline line = false) :
    ∀ part ∈ sections ++ [(⟨title, held.reverse⟩ : Section)],
      IsTitle part.title ∧ ∀ line ∈ part.lines, isUnderline line = false := by
  intro part hpart
  obtain hpart | hpart := List.mem_append.mp hpart
  · exact hrecorded part hpart
  · obtain rfl := List.mem_singleton.mp hpart
    exact ⟨htitle, fun line hline => hheld line (List.mem_reverse.mp hline)⟩

theorem Sound.step (hsound : Sound scanner) (hstep : Step scanner call result) :
    Sound result.1 := by
  cases hstep with
  | candidate hphase hplain =>
    refine ⟨isTitle_trim hplain, fun title held hopen => ?_, hsound.recorded⟩
    exact absurd (hphase.symm.trans hopen) nofun
  | preamble => exact hsound
  | first hphase hunder hsome =>
    refine ⟨hsound.candidate, fun title held hopen => ?_, hsound.recorded⟩
    obtain ⟨rfl, rfl⟩ := Phase.buffering.inj hopen
    exact ⟨hsound.candidate hsome, nofun⟩
  | hold hphase hplain =>
    obtain ⟨htitle, hheld⟩ := hsound.opened _ _ hphase
    refine ⟨hsound.candidate, fun title held hopen => ?_, hsound.recorded⟩
    obtain ⟨rfl, rfl⟩ := Phase.buffering.inj hopen
    exact ⟨htitle, List.forall_mem_cons.mpr ⟨hplain, hheld⟩⟩
  | refuse => exact hsound
  | next hphase hunder htitled =>
    obtain ⟨htitle, hheld⟩ := hsound.opened _ _ hphase
    obtain ⟨hlast, hearlier⟩ := List.forall_mem_cons.mp hheld
    refine ⟨hsound.candidate, fun title held hopen => ?_,
      recorded_append hsound.recorded htitle hearlier⟩
    obtain ⟨rfl, rfl⟩ := Phase.buffering.inj hopen
    have hne := mt Text.trim_eq_nil_iff.mp (Bool.eq_false_iff.mp htitled)
    exact ⟨isTitle_trim hlast hne, nofun⟩
  | idle => exact hsound
  | close hphase =>
    obtain ⟨htitle, hheld⟩ := hsound.opened _ _ hphase
    exact ⟨hsound.candidate, nofun, recorded_append hsound.recorded htitle hheld⟩

theorem Sound.run (hsound : Sound scanner) (calls : List Call) : Sound (scanner.run calls) := by
  induction calls generalizing scanner with
  | nil => exact hsound
  | cons call rest ih => exact ih (hsound.step (step_call scanner call))

/-- A call records at most one section, behind those that are recorded. -/
theorem Step.sections_isPrefix (hstep : Step scanner call result) :
    scanner.sections <+: result.1.sections := by
  cases hstep with
  | next | close => exact List.prefix_append _ _
  | candidate | preamble | first | hold | refuse | idle => exact List.prefix_rfl

theorem run_sections_isPrefix (scanner : Scanner) (calls : List Call) :
    scanner.sections <+: (scanner.run calls).sections := by
  induction calls generalizing scanner with
  | nil => exact List.prefix_rfl
  | cons call rest ih => exact (step_call scanner call).sections_isPrefix.trans (ih _)

/-- A call that is refused changes nothing, not even the candidate. -/
theorem Step.eq_of_refused {fault : Fault} (hstep : Step scanner call result)
    (hrefused : result.2 = some fault) : result.1 = scanner := by
  cases hstep with
  | refuse => rfl
  | candidate | preamble | first | hold | next | idle | close => cases hrefused

theorem Step.of_finish (hstep : Step scanner .finish result) :
    result.1.phase = .seeking ∧ result.2 = none := by
  cases hstep with
  | idle hphase => exact ⟨hphase, rfl⟩
  | close => exact ⟨rfl, rfl⟩

theorem call_finish_of_seeking (hphase : scanner.phase = .seeking) :
    (scanner.call .finish).1 = scanner := by
  simp [Scanner.call, finish, hphase]

/-- Once a text is closed there is nothing left to close. -/
theorem run_replicate_finish (hphase : scanner.phase = .seeking) (n : Nat) :
    scanner.run (List.replicate n .finish) = scanner := by
  induction n with
  | zero => rfl
  | succ n ih => rw [List.replicate_succ', run_concat, ih, call_finish_of_seeking hphase]

theorem view_buffering_eq_false_iff : scanner.view.buffering = false ↔ scanner.phase = .seeking := by
  cases hphase : scanner.phase <;> simp [view, hphase]

theorem Sound.exists_title (hsound : Sound scanner) (hopen : scanner.view.buffering = true) :
    ∃ title, scanner.view.title? = some title ∧ IsTitle title := by
  cases hphase : scanner.phase with
  | seeking => simp [view, hphase] at hopen
  | buffering title held => exact ⟨title, by simp [view, title?, hphase], (hsound.opened _ _ hphase).1⟩

theorem Sound.buffer_plain (hsound : Sound scanner) :
    ∀ line ∈ scanner.buffer, isUnderline line = false := by
  cases hphase : scanner.phase with
  | seeking => simp [buffer, hphase]
  | buffering title held =>
    intro line hline
    rw [buffer, hphase] at hline
    exact (hsound.opened _ _ hphase).2 line (List.mem_reverse.mp hline)

end Scanner

/-- What a caller can rely on after any calls on a scanner, refused ones and calls behind the end
of a text included. Outside a section nothing is held back. Titles, of the open section and of the
recorded ones, are titles, and no line of a section is an underline. Sections are recorded at the end
only. A line that is refused leaves no trace: the scanner is the same, and all later calls are
answered as if it had not been fed. The end of a text is never refused, and declared again it changes
nothing. -/
theorem Scanner.calls_invariant (calls : List Call) :
    let scanner := Scanner.run {} calls
    (scanner.view.buffering = false → scanner.view.buffer = []) ∧
      (scanner.view.buffering = true →
        ∃ title, scanner.view.title? = some title ∧ IsTitle title) ∧
      (∀ line ∈ scanner.view.buffer, isUnderline line = false) ∧
      (∀ part ∈ scanner.view.sections,
        IsTitle part.title ∧ ∀ line ∈ part.lines, isUnderline line = false) ∧
      (∀ more, scanner.view.sections <+: (scanner.run more).view.sections) ∧
      (∀ line fault, (scanner.call (.feed line)).2 = some fault →
        scanner.run [.feed line] = scanner ∧
          ∀ later, scanner.answers (.feed line :: later) =
            (scanner.view, some fault) :: scanner.answers later) ∧
      (scanner.call .finish).2 = none ∧
      (scanner.run [.finish]).view.buffering = false ∧
      ∀ n, scanner.run (List.replicate (n + 1) .finish) = scanner.run [.finish] := by
  intro scanner
  have hsound : scanner.Sound := Sound.start.run calls
  obtain ⟨hclosed, hfinish⟩ := scanner.step_finish.of_finish
  refine ⟨fun hseeking => ?_, hsound.exists_title, hsound.buffer_plain, hsound.recorded,
    scanner.run_sections_isPrefix, fun line fault hrefused => ?_, hfinish,
    view_buffering_eq_false_iff.mpr hclosed, fun n => ?_⟩
  · have hphase := view_buffering_eq_false_iff.mp hseeking
    simp [view, buffer, hphase]
  · have hsame := (scanner.step_feed line).eq_of_refused hrefused
    refine ⟨hsame, fun later => ?_⟩
    rw [answers_cons, hsame, hrefused]
  · rw [List.replicate_succ, ← List.singleton_append, run_append]
    exact run_replicate_finish hclosed n

end OpcodeAtlas.Listing
