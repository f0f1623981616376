import OpcodeAtlas.Proofs.RustModule.TableLiteral

namespace OpcodeAtlas.RustModule

/-! Reading a whole module back. -/

/-- What a module tells about the table that it was rendered from. -/
structure Contents where
  registry : List Text
  /-- The keys of the table and the variants under them. -/
  entries : List (Int × Variant)

/-- The lines of an item behind its first line, up to a closing brace at the margin, and the lines
behind the item. -/
def cutItem? (opening : Text) (lines : List Text) : Option (List Text × List Text) :=
  match lines.dropWhile (· != opening) with
  | [] => none
  | _ :: lines =>
    match lines.dropWhile (· != "\x7d".toList) with
    | [] => none
    | _ :: behind => some (lines.takeWhile (· != "\x7d".toList), behind)

/-- Behind the item of the static table and an empty line, the function that dispatches goes up to
the end of the module, which is an empty line as well. -/
def readModule? (code : Text) : Option Contents := do
  let (inner, behind) ← cutItem? "lazy_static! \x7b" (code.splitOn '\n')
  let entries ← readEntries? (inner.map (List.dropWhile (· == ' ')))
  let dispatcher ← readDispatcher? (Text.unlines (behind.drop 1).dropLast)
  return ⟨dispatcher.arms.map Arm.pattern, entries⟩

/-- A table that can be rendered so that nothing in it runs into the code around it: the registry
covers it, its names are made of letters and its notes stay on their lines. -/
structure Emittable (table : Table) : Prop where
  covered : checkDispatch table = .ok ()
  registry_letters : ∀ name ∈ table.registry, ∀ c ∈ name, isLetter c = true
  note_line : ∀ variant ∈ table.variants, '\n' ∉ variant.cycleNote

/-- Variants that only differ in what the comment of a note cannot show. -/
structure EmittedAlike (variant other : Variant) : Prop where
  opcode : variant.opcode = other.opcode
  mnemonic : variant.mnemonic = other.mnemonic
  official : variant.official = other.official
  size : variant.size = other.size
  cycles : variant.cycles = other.cycles
  cycleMode : variant.cycleMode = other.cycleMode
  mode : variant.mode = other.mode
  cycleNote : spaceClosers variant.cycleNote = spaceClosers other.cycleNote

theorem cutItem?_append {opening : Text} {before inner : List Text}
    (hbefore : ∀ line ∈ before, line ≠ opening) (hinner : ∀ line ∈ inner, line ≠ "\x7d".toList)
    (behind : List Text) :
    cutItem? opening (before ++ opening :: (inner ++ "\x7d".toList :: behind)) =
      some (inner, behind) := by
  have hskip : ∀ line ∈ before, (line != opening) = true := fun line hline =>
    bne_iff_ne.mpr (hbefore line hline)
  have hkeep : ∀ line ∈ inner, (line != "\x7d".toList) = true := fun line hline =>
    bne_iff_ne.mpr (hinner line hline)
  have hopening : (before ++ opening :: (inner ++ "\x7d".toList :: behind)).dropWhile
      (· != opening) = opening :: (inner ++ "\x7d".toList :: behind) := by
    rw [List.dropWhile_append_of_pos hskip]
    simp
  have hclosing : (inner ++ "\x7d".toList :: behind).dropWhile (· != "\x7d".toList) =
      "\x7d".toList :: behind := by
    rw [List.dropWhile_append_of_pos hkeep]
    simp
  have htake : (inner ++ "\x7d".toList :: behind).takeWhile (· != "\x7d".toList) = inner := by
    rw [List.takeWhile_append_of_pos hkeep]
    simp
  rw [cutItem?, hopening]
  simp only [hclosing, htake]

theorem ne_lazy_static_of_mem {line : Text}
    (hline : line ∈ ([header, useDeclarations] : List Text).flatMap (Text.splitOn '\n')) :
    line ≠ "lazy_static! \x7b".toList := by
  revert line
  decide +kernel

/-- The names of the variants are among those of the registry. -/
theorem Emittable.mnemonic_letters {table : Table} (hemittable : Emittable table) :
    ∀ variant ∈ table.variants, ∀ c ∈ variant.mnemonic, isLetter c = true := by
  intro variant hvariant
  apply hemittable.registry_letters
  exact checkDispatch_eq_ok_iff.mp hemittable.covered variant hvariant

/-- A module is read back to the registry and to the entries of its table. -/
theorem readModule?_render {table : Table} (hemittable : Emittable table) :
    ∃ text, render table = .ok text ∧
      readModule? text = some
        ⟨table.registry, table.opcodes.entries.map fun entry => (entry.1, emitted entry.2)⟩ := by
  have hmnemonics := hemittable.mnemonic_letters
  obtain ⟨hcovered, hregistry, hnotes⟩ := hemittable
  refine ⟨_, bind_eq_ok_iff.mpr ⟨(), hcovered, rfl⟩, ?_⟩
  obtain ⟨inner, hlines, hinner, hflush⟩ := splitOn_tableLiteral table
  have hsplit : (Text.unlines [header, useDeclarations, tableLiteral table, [], dispatch table,
      []]).splitOn '\n' = ([header, useDeclarations] : List Text).flatMap (Text.splitOn '\n') ++
        "lazy_static! \x7b".toList :: (inner ++ "\x7d".toList ::
          ([] :: ((dispatch table).splitOn '\n' ++ [[]]))) := by
    rw [Text.splitOn_unlines (List.cons_ne_nil _ _)]
    simp only [List.flatMap_cons, List.flatMap_nil, hlines, Text.splitOn, List.append_assoc,
      List.cons_append, List.nil_append, List.append_nil]
  have hentries := readEntries?_lines
    (fun entry hentry => hmnemonics entry.2 (List.mem_map_of_mem hentry))
    (fun entry hentry => hnotes entry.2 (List.mem_map_of_mem hentry))
  have hdispatch := readDispatcher?_dispatch
    fun name hname => readable_of_letters (hregistry name hname)
  rw [readModule?, hsplit, cutItem?_append (fun line => ne_lazy_static_of_mem) hinner]
  simp only [Option.bind_eq_bind, Option.bind_some, hflush, hentries, List.drop_succ_cons,
    List.drop_zero, List.dropLast_concat, Text.unlines_splitOn, hdispatch, List.map_map]
  simp [Function.comp_def, armOf]

theorem emittedAlike_of_emitted_eq {variant other : Variant} (heq : emitted variant = emitted other) :
    EmittedAlike variant other := by
  unfold emitted at heq
  injection heq with hopcode hmnemonic hsize hcycles hcycleMode hmode hofficial hnote
  exact ⟨hopcode, hmnemonic, hofficial, hsize, hcycles, hcycleMode, hmode, hnote⟩

/-- Rendering loses nothing but the closers in the notes. Any module is read back by one reader to
the registry and to all entries of its table, in order; so two tables with the same module have the
same registry and, place by place, the same keys over variants that are emitted alike. -/
theorem render_loses_nothing {table other : Table} (htable : Emittable table)
    (hother : Emittable other) :
    (∃ text, render table = .ok text ∧
      readModule? text = some
        ⟨table.registry, table.opcodes.entries.map fun entry => (entry.1, emitted entry.2)⟩) ∧
      (render table = render other →
        table.registry = other.registry ∧
          List.Forall₂ (fun entry entry' => entry.1 = entry'.1 ∧ EmittedAlike entry.2 entry'.2)
            table.opcodes.entries other.opcodes.entries) := by
  refine ⟨readModule?_render htable, fun hrender => ?_⟩
  obtain ⟨text, htext, hread⟩ := readModule?_render htable
  obtain ⟨text', htext', hread'⟩ := readModule?_render hother
  have hsame : text = text' := by
    rw [htext, htext'] at hrender
    exact Except.ok.inj hrender
  rw [← hsame, hread] at hread'
  injection Option.some.inj hread' with hregistry hentries
  refine ⟨hregistry, ?_⟩
  rw [← List.forall₂_eq_eq_eq, List.forall₂_map_left_iff, List.forall₂_map_right_iff] at hentries
  refine hentries.imp fun entry entry' heq => ?_
  obtain ⟨hkey, hvariant⟩ := Prod.mk.inj heq
  exact ⟨hkey, emittedAlike_of_emitted_eq hvariant⟩

/-- A table in which one variant has a note and another one a count below zero. -/
def annotated (note : Text) : Table where
  opcodes := {
    entries := [
      (0x7D, { opcode := 0x7D, mnemonic := "ADC", size := 3, cycles := 4,
               cycleMode := .pageCrossPenalty, mode := .absoluteX, cycleNote := note }),
      (0xB3, { opcode := 0xB3, mnemonic := "LAX", size := 2, cycles := -5,
               cycleMode := .pageCrossPenalty, mode := .indirectY, official := false })]
    nodup_keys := by simp }
  registry := ["ADC", "LAX"]

theorem emittable_annotated {note : Text} (hnote : '\n' ∉ note) : Emittable (annotated note) := by
  have hletters : ∀ name ∈ (["ADC", "LAX"] : List Text), name.all isLetter = true := by
    decide
  have hcovered : checkDispatch (annotated note) = .ok () :=
    checkDispatch_eq_ok_iff.mpr (by simp [Table.variants, OrderedMap.values, annotated])
  refine ⟨hcovered, fun name hname => List.all_eq_true.mp (hletters name hname), ?_⟩
  intro variant hvariant
  obtain rfl | rfl : variant = _ ∨ variant = _ := by
    simpa [Table.variants, OrderedMap.values, annotated] using hvariant
  · exact hnote
  · exact List.not_mem_nil

/-- Two notes that a comment shows alike. -/
theorem annotated_loses_nothing :
    Emittable (annotated "(+1 */ if)") ∧ Emittable (annotated "(+1 * / if)") ∧
      render (annotated "(+1 */ if)") = render (annotated "(+1 * / if)") ∧
      (∃ text, render (annotated "(+1 */ if)") = .ok text ∧
        (readModule? text).map Contents.registry = some ["ADC".toList, "LAX".toList]) ∧
      List.Forall₂ (fun entry entry' => entry.1 = entry'.1 ∧ EmittedAlike entry.2 entry'.2)
        (annotated "(+1 */ if)").opcodes.entries (annotated "(+1 * / if)").opcodes.entries := by
  have hcloser : Emittable (annotated "(+1 */ if)") := emittable_annotated (by decide)
  have hspaced : Emittable (annotated "(+1 * / if)") := emittable_annotated (by decide)
  have hrender : render (annotated "(+1 */ if)") = render (annotated "(+1 * / if)") := rfl
  obtain ⟨⟨text, htext, hread⟩, halike⟩ := render_loses_nothing hcloser hspaced
  exact ⟨hcloser, hspaced, hrender, ⟨text, htext, by rw [hread]; rfl⟩, (halike hrender).2⟩

end OpcodeAtlas.RustModule
