import OpcodeAtlas.Proofs.RustModule.Layout
import OpcodeAtlas.Proofs.Table.Registry
import OpcodeAtlas.Proofs.Text.Case

namespace OpcodeAtlas.RustModule

/-! Reading the dispatch back. The reader takes the code line by line and does not care for the
    margins. -/

/-- An arm of a match over names: the name that it takes and the method that it calls. -/
structure Arm where
  pattern : Text
  method : Text
deriving DecidableEq

/-- A function that dispatches over names. -/
structure Dispatcher where
  /-- The character that is taken off the front of a name before it is matched. -/
  mark : Char
  /-- The arms before the one for all other names. -/
  arms : List Arm

/-- The lines of a code without their margins. -/
def flushLines (code : Text) : List Text :=
  (code.splitOn '\n').map (List.dropWhile (· == ' '))

/-- What a line holds between an opening and the next closing character, if it starts with the
    opening and nothing but the ending follows. -/
def framed? (opening : Text) (closing : Char) (ending line : Text) : Option Text :=
  if opening.isPrefixOf line then
    let (inner, rest) := Text.cutAt closing (line.drop opening.length)
    if rest = ending then some inner else none
  else none

/-- An arm whose pattern is a string without escapes. -/
def readArm? (opening call advance closing : Text) : Option Arm := do
  let pattern ← framed? "\"" '"' " => \x7b" opening
  let method ← framed? "cpu." '(' "&op.addressing_mode);" call
  if '\\' ∈ pattern then none
  else if advance = "cpu.program_counter += op.bytes - 1" ∧ closing = "\x7d" then
    some ⟨pattern, method⟩
  else none

/-- Reads arms up to the one that panics. It is the last, and nothing but the ends of the match and
    of the function follows. -/
def readArms? : List Text → Option (List Arm)
  | [] => none
  | line :: rest =>
    if line.isEmpty then readArms? rest
    else if List.isPrefixOf "_ => panic!(".toList line then
      if rest = (["\x7d", "\x7d"] : List Text) then some [] else none
    else match rest with
      | call :: advance :: closing :: others => do
        let arm ← readArm? line call advance closing
        let arms ← readArms? others
        return arm :: arms
      | _ => none

def readDispatcher? (code : Text) : Option Dispatcher :=
  match flushLines code with
  | signature :: scrutinee :: lines =>
    if signature = "pub fn call(cpu: &mut CPU, op: &OpCode) \x7b" then do
      let marks ← framed? "match op.name.trim_start_matches('" '\'' ") \x7b" scrutinee
      let arms ← readArms? lines
      match marks with
      | [mark] => return ⟨mark, arms⟩
      | _ => none
    else none
  | _ => none

namespace Dispatcher

/-- The arms that take a name, its leading marks removed. -/
def armsFor (dispatcher : Dispatcher) (name : Text) : List Arm :=
  dispatcher.arms.filter (·.pattern = name.dropWhile (· == dispatcher.mark))

/-- The arm that runs, which is the first that takes the name. Without one the dispatch panics. -/
def select? (dispatcher : Dispatcher) (name : Text) : Option Arm :=
  dispatcher.arms.find? (·.pattern = name.dropWhile (· == dispatcher.mark))

end Dispatcher

theorem framed?_append {closing : Char} {inner : Text} (hinner : closing ∉ inner)
    (opening ending : Text) :
    framed? opening closing ending (opening ++ inner ++ closing :: ending) = some inner := by
  have hprefix : opening.isPrefixOf (opening ++ inner ++ closing :: ending) = true := by
    simp [List.append_assoc]
  rw [framed?, if_pos hprefix, List.append_assoc, List.drop_left, Text.cutAt_append hinner]
  exact if_pos rfl

theorem flushLines_of_not_mem {line : Text} (hline : '\n' ∉ line) :
    flushLines line = [line.dropWhile (· == ' ')] := by
  rw [flushLines, Text.splitOn_of_not_mem hline, List.map_singleton]

theorem flushLines_unlines {texts : List Text} (hne : texts ≠ []) :
    flushLines (Text.unlines texts) = texts.flatMap flushLines := by
  rw [flushLines, Text.splitOn_unlines hne, List.map_flatMap]
  rfl

/-- Margins do not matter. -/
theorem flushLines_indent (code : Text) (levels : Nat) :
    flushLines (indent code levels) = flushLines code := by
  have hmargin : ∀ line : Text, (indentLine levels line).dropWhile (· == ' ') =
      line.dropWhile (· == ' ') := by
    intro line
    rw [indentLine]
    split
    · next hempty => rw [List.isEmpty_iff.mp hempty]
    · exact List.dropWhile_append_of_pos (by simp [margin])
  rw [flushLines, splitOn_indent, List.map_map]
  exact List.map_congr_left fun line _ => hmargin line

/-- The lines of an arm. -/
theorem flushLines_dispatchArm {mnemonic : Text} (hname : '\n' ∉ mnemonic)
    (hmethod : '\n' ∉ Text.toLower mnemonic) :
    flushLines (dispatchArm mnemonic) =
      ["\"" ++ mnemonic ++ "\" => \x7b",
        "cpu." ++ Text.toLower mnemonic ++ "(&op.addressing_mode);",
        "cpu.program_counter += op.bytes - 1", "\x7d"] := by
  rw [dispatchArm, flushLines_unlines (List.cons_ne_nil _ _)]
  simp only [List.flatMap_cons, List.flatMap_nil, flushLines_indent]
  rw [flushLines_of_not_mem (by simpa using hname), flushLines_of_not_mem (by simpa using hmethod)]
  rfl

/-- Codes with an empty line between each two of them. -/
theorem flushLines_join (codes : List Text) (last : Text) :
    flushLines (Text.join "\n\n" (codes ++ [last])) =
      (codes.flatMap fun code => flushLines code ++ [[]]) ++ flushLines last := by
  have hblank : flushLines [] = [[]] := rfl
  have hne : (codes.flatMap fun code => [code, []]) ++ [last] ≠ [] :=
    List.append_ne_nil_of_right_ne_nil _ (List.cons_ne_nil _ _)
  rw [Text.join_empty_line, flushLines_unlines hne, List.flatMap_append, List.flatMap_assoc]
  simp only [List.flatMap_cons, List.flatMap_nil, List.append_nil, hblank]

/-- A name that stays within its string and its line, and whose method stays in front of its
    arguments. -/
structure Readable (name : Text) : Prop where
  quote : '"' ∉ name
  escape : '\\' ∉ name
  line : '\n' ∉ name
  method_line : '\n' ∉ Text.toLower name
  method_arguments : '(' ∉ Text.toLower name

/-- Letters do not interfere with the code around them. -/
theorem readable_of_letters {name : Text} (hletters : ∀ c ∈ name, isLetter c = true) :
    Readable name := by
  have hname : ∀ c, isLetter c = false → c ∉ name := fun c hc hmem =>
    absurd (hletters c hmem) (by simp [hc])
  have hmethod : ∀ c : Char, c.toNat < 128 → c.isAlpha = false → c ∉ Text.toLower name :=
    fun c hascii hc hmem => absurd (Text.isAlpha_of_mem_toLower hletters hmem hascii) (by simp [hc])
  exact ⟨hname _ (by decide), hname _ (by decide), hname _ (by decide),
    hmethod _ (by decide) (by decide), hmethod _ (by decide) (by decide)⟩

/-- The arm that a mnemonic of the registry gets. -/
def armOf (mnemonic : Text) : Arm :=
  ⟨mnemonic, Text.toLower mnemonic⟩

theorem readArms?_dispatchArm {mnemonic : Text} (hreadable : Readable mnemonic) (others : List Text) :
    readArms? (flushLines (dispatchArm mnemonic) ++ [] :: others) =
      (readArms? others).map (armOf mnemonic :: ·) := by
  have hpattern : framed? "\"" '"' " => \x7b" ("\"" ++ mnemonic ++ "\" => \x7b") = some mnemonic :=
    framed?_append hreadable.quote _ _
  have hmethod : framed? "cpu." '(' "&op.addressing_mode);"
      ("cpu." ++ Text.toLower mnemonic ++ "(&op.addressing_mode);") = some (Text.toLower mnemonic) :=
    framed?_append hreadable.method_arguments _ _
  have harm : readArm? ("\"" ++ mnemonic ++ "\" => \x7b")
      ("cpu." ++ Text.toLower mnemonic ++ "(&op.addressing_mode);")
      "cpu.program_counter += op.bytes - 1" "\x7d" = some (armOf mnemonic) := by
    rw [readArm?, hpattern, hmethod]
    exact if_neg hreadable.escape
  rw [flushLines_dispatchArm hreadable.line hreadable.method_line]
  have hblank : readArms? ([] :: others) = readArms? others := by
    rw [readArms?.eq_def]
    rfl
  simp only [List.cons_append, List.nil_append]
  rw [readArms?]
  simp only [harm, hblank]
  cases readArms? others <;> simp

/-- The arms of the registry are read one by one, and then the one that panics. -/
theorem readArms?_arms {registry : List Text} (hreadable : ∀ name ∈ registry, Readable name) :
    readArms? ((registry.flatMap fun name => flushLines (dispatchArm name) ++ [[]]) ++
        [fallbackArm, "\x7d", "\x7d"]) = some (registry.map armOf) := by
  induction registry with
  | nil => rfl
  | cons name rest ih =>
    obtain ⟨hname, hrest⟩ := List.forall_mem_cons.mp hreadable
    have hread := readArms?_dispatchArm hname
      ((rest.flatMap fun name => flushLines (dispatchArm name) ++ [[]]) ++
        [fallbackArm, "\x7d", "\x7d"])
    rw [ih hrest] at hread
    simpa using hread

/-- The code of a dispatch is read back to the arms of its registry. -/
theorem readDispatcher?_dispatch {table : Table} (hreadable : ∀ name ∈ table.registry, Readable name) :
    readDispatcher? (dispatch table) =
      some ⟨Variant.unofficialMark, table.registry.map armOf⟩ := by
  have hlines : flushLines (dispatch table) =
      "pub fn call(cpu: &mut CPU, op: &OpCode) \x7b".toList ::
        ("match op.name.trim_start_matches('" ++ [Variant.unofficialMark] ++ "') \x7b" : Text) ::
        ((table.registry.flatMap fun name => flushLines (dispatchArm name) ++ [[]]) ++
          [fallbackArm, "\x7d", "\x7d"]) := by
    rw [dispatch, flushLines_unlines (List.cons_ne_nil _ _)]
    simp only [List.flatMap_cons, List.flatMap_nil, flushLines_indent, flushLines_join,
      List.flatMap_map, List.append_assoc]
    rfl
  rw [readDispatcher?, hlines]
  simp only [readArms?_arms hreadable]
  rfl

/-- A name that is emitted loses its mark and nothing else. -/
theorem dropWhile_mark_name {variant : Variant}
    (hletters : ∀ c ∈ variant.mnemonic, isLetter c = true) :
    variant.name.dropWhile (· == Variant.unofficialMark) = variant.mnemonic := by
  have hbare : variant.mnemonic.dropWhile (· == Variant.unofficialMark) = variant.mnemonic := by
    cases hname : variant.mnemonic with
    | nil => rfl
    | cons c rest =>
      refine List.dropWhile_cons_of_neg fun hmark => ?_
      rw [beq_iff_eq.mp hmark] at hname
      exact absurd (hletters _ (hname ▸ List.mem_cons_self)) (by decide)
  rw [Variant.name]
  split
  · exact hbare
  · simp [hbare]

/-- Of the arms of a registry that names nothing twice, one takes the mnemonic of a variant. -/
theorem armsFor_name {registry : List Text} (hnodup : registry.Nodup) {variant : Variant}
    (hletters : ∀ c ∈ variant.mnemonic, isLetter c = true) (hmem : variant.mnemonic ∈ registry) :
    Dispatcher.armsFor ⟨Variant.unofficialMark, registry.map armOf⟩ variant.name =
      [⟨variant.mnemonic, variant.handler⟩] := by
  have hone : registry.filter (fun name => decide (name = variant.mnemonic)) = [variant.mnemonic] := by
    rw [List.filter_eq, List.count_eq_one_of_mem hnodup hmem, List.replicate_one]
  simp only [Dispatcher.armsFor, dropWhile_mark_name hletters, List.filter_map]
  exact congrArg (List.map armOf) hone

variable {sources : List Source} {table : Table}

/-- The dispatch of a merged table, read as the emulator reads it. Its arms are those of the registry,
each mnemonic once and in order, and each calls the method of its mnemonic. The name that is emitted
for a variant comes to one arm, that of its mnemonic and handler, so no variant comes to the arm that
panics, and variants share an arm exactly if they share a mnemonic. -/
theorem dispatch_covers (hmerge : (Table.merge sources).outcome = .ok table)
    (hletters : ∀ name ∈ Table.discoveries sources, ∀ c ∈ name, isLetter c = true) :
    ∃ dispatcher, readDispatcher? (dispatch table) = some dispatcher ∧
      dispatcher.arms.map Arm.pattern = table.registry ∧ table.registry.Nodup ∧
      (∀ arm ∈ dispatcher.arms, arm.method = Text.toLower arm.pattern) ∧
      (∀ variant ∈ table.variants,
        dispatcher.armsFor variant.name = [⟨variant.mnemonic, variant.handler⟩] ∧
          dispatcher.select? variant.name = some ⟨variant.mnemonic, variant.handler⟩) ∧
      ∀ variant ∈ table.variants, ∀ other ∈ table.variants,
        (dispatcher.armsFor variant.name = dispatcher.armsFor other.name ↔
          variant.mnemonic = other.mnemonic) := by
  have hnodup := Table.nodup_registry hmerge
  have hregistry : ∀ name ∈ table.registry, ∀ c ∈ name, isLetter c = true := by
    intro name hname
    rw [Table.registry_of_merge hmerge, List.mem_eraseDups] at hname
    exact hletters name hname
  have hone : ∀ variant ∈ table.variants,
      Dispatcher.armsFor ⟨Variant.unofficialMark, table.registry.map armOf⟩ variant.name =
        [⟨variant.mnemonic, variant.handler⟩] := by
    intro variant hvariant
    have hmem := (Table.mem_registry_iff hmerge).mpr ⟨variant, hvariant, rfl⟩
    exact armsFor_name hnodup (hregistry _ hmem) hmem
  refine ⟨⟨Variant.unofficialMark, table.registry.map armOf⟩,
    readDispatcher?_dispatch fun name hname => readable_of_letters (hregistry name hname), ?_, hnodup,
    ?_, fun variant hvariant => ⟨hone variant hvariant, ?_⟩, ?_⟩
  · simp [Function.comp_def, armOf]
  · simp [armOf]
  · rw [Dispatcher.select?, ← List.head?_filter]
    exact congrArg List.head? (hone variant hvariant)
  · intro variant hvariant other hother
    rw [hone variant hvariant, hone other hother]
    simp +contextual [Variant.handler]

theorem sharedSources_dispatch_covers :
    ∃ table dispatcher, (Table.merge Table.sharedSources).outcome = .ok table ∧
      readDispatcher? (dispatch table) = some dispatcher ∧
      dispatcher.arms.map Arm.pattern = table.registry ∧
      dispatcher.select? "*NOP" = some ⟨"NOP", "nop"⟩ := by
  -- Characters are finitely many, and a quantifier over them would be decided by trying them all.
  have hletters : ∀ name ∈ Table.discoveries Table.sharedSources, name.all isLetter = true := by
    decide
  obtain ⟨dispatcher, hread, hpatterns, -, -, hvariants, -⟩ :=
    @dispatch_covers Table.sharedSources _ rfl
      fun name hname => List.all_eq_true.mp (hletters name hname)
  refine ⟨_, dispatcher, rfl, hread, hpatterns, ?_⟩
  exact (hvariants (Table.sharedSources[1].variants[0]) (by decide)).2

end OpcodeAtlas.RustModule
