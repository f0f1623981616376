import OpcodeAtlas.Proofs.Outcome
import OpcodeAtlas.Proofs.OrderedMap
import OpcodeAtlas.Table.Merge

namespace OpcodeAtlas.Table

/-- The variants of all sources, in the order of the sources. -/
def extracted (sources : List Source) : List Variant :=
  sources.flatMap Source.variants

theorem extracted_nil : extracted [] = [] :=
  rfl

theorem extracted_cons (source : Source) (rest : List Source) :
    extracted (source :: rest) = source.variants ++ extracted rest :=
  rfl

/-- The conditions on the sources under which their union is a table: every variant is as long as
its mode makes it, no opcode occurs twice, and every listed mnemonic has a variant in some
source. -/
structure Mergeable (sources : List Source) : Prop where
  size_eq : ∀ variant ∈ extracted sources, variant.size = variant.mode.size
  nodup_opcodes : ((extracted sources).map Variant.opcode).Nodup
  mnemonic_used : ∀ source ∈ sources, ∀ name ∈ source.mnemonics,
    ∃ variant ∈ extracted sources, variant.mnemonic = name

/-- A map takes in variants one by one, each under its own opcode and behind all entries that are
there already. -/
structure Extends (opcodes : OrderedMap Int Variant) (variants : List Variant)
    (result : OrderedMap Int Variant) : Prop where
  size_eq : ∀ variant ∈ variants, variant.size = variant.mode.size
  nodup : (opcodes.keys ++ variants.map Variant.opcode).Nodup
  entries_eq : result.entries =
    opcodes.entries ++ variants.map fun variant => (variant.opcode, variant)

theorem Extends.keys_eq {opcodes result : OrderedMap Int Variant} {variants : List Variant}
    (hextends : Extends opcodes variants result) :
    result.keys = opcodes.keys ++ variants.map Variant.opcode := by
  rw [OrderedMap.keys, hextends.entries_eq, List.map_append, List.map_map]
  rfl

theorem extends_nil_iff {opcodes result : OrderedMap Int Variant} :
    Extends opcodes [] result ↔ result = opcodes := by
  constructor
  · intro hextends
    exact OrderedMap.ext_entries (by simpa using hextends.entries_eq)
  · rintro rfl
    exact ⟨by simp, by simpa [OrderedMap.keys] using result.nodup_keys, by simp⟩

/-- Taking in a longer list is taking in its parts one after the other. -/
theorem extends_append_iff {opcodes result : OrderedMap Int Variant}
    {variants more : List Variant} :
    Extends opcodes (variants ++ more) result ↔
      ∃ middle, Extends opcodes variants middle ∧ Extends middle more result := by
  constructor
  · rintro ⟨hsize, hnodup, hentries⟩
    rw [List.map_append, ← List.append_assoc] at hnodup
    have hfirst := (List.nodup_append.mp hnodup).1
    let middle : OrderedMap Int Variant :=
      ⟨opcodes.entries ++ variants.map fun variant => (variant.opcode, variant), by
        simpa [OrderedMap.keys, Function.comp_def] using hfirst⟩
    have hmiddle : Extends opcodes variants middle :=
      ⟨fun variant hmem => hsize variant (List.mem_append_left _ hmem), hfirst, rfl⟩
    refine ⟨middle, hmiddle,
      fun variant hmem => hsize variant (List.mem_append_right _ hmem), ?_, ?_⟩
    · rwa [hmiddle.keys_eq]
    · rw [hentries, hmiddle.entries_eq, List.map_append, List.append_assoc]
  · rintro ⟨middle, hfirst, hmore⟩
    refine ⟨?_, ?_, ?_⟩
    · intro variant hmem
      obtain hmem | hmem := List.mem_append.mp hmem
      · exact hfirst.size_eq variant hmem
      · exact hmore.size_eq variant hmem
    · rw [List.map_append, ← List.append_assoc, ← hfirst.keys_eq]
      exact hmore.nodup
    · rw [hmore.entries_eq, hfirst.entries_eq, List.map_append, List.append_assoc]

/-- One variant is taken in exactly if its size fits and its opcode is free. -/
theorem claim_eq_ok_iff {source : Text} {opcodes result : OrderedMap Int Variant}
    {variant : Variant} :
    claim source opcodes variant = .ok result ↔ Extends opcodes [variant] result := by
  rw [claim, bind_eq_ok_iff]
  by_cases hsize : variant.size = variant.mode.size
  · cases hget : opcodes.get? variant.opcode with
    | none =>
      have hfresh := OrderedMap.get?_eq_none_iff.mp hget
      have hentries := OrderedMap.entries_insert_of_not_mem hfresh variant
      simp only [checkSize, hsize, if_true, Except.ok.injEq, true_and, exists_const]
      constructor
      · rintro rfl
        refine ⟨by simpa using hsize, ?_, by simpa using hentries⟩
        exact List.nodup_append_comm.mp (List.nodup_cons.mpr ⟨hfresh, opcodes.nodup_keys⟩)
      · intro hextends
        exact OrderedMap.ext_entries (hentries.trans (by simpa using hextends.entries_eq.symm))
    | some earlier =>
      have hmem : variant.opcode ∈ opcodes.keys := by
        by_contra hfresh
        simp [OrderedMap.get?_eq_none_iff.mpr hfresh] at hget
      constructor
      · rintro ⟨-, -, herror⟩
        cases herror
      · intro hextends
        obtain ⟨-, -, hdisjoint⟩ := List.nodup_append.mp hextends.nodup
        exact absurd rfl (hdisjoint _ hmem _ (by simp))
  · constructor
    · rintro ⟨_, hcheck, -⟩
      simp [checkSize, hsize] at hcheck
    · intro hextends
      exact absurd (hextends.size_eq variant (by simp)) hsize

theorem foldlM_claim_eq_ok_iff {source : Text} {opcodes result : OrderedMap Int Variant}
    {variants : List Variant} :
    variants.foldlM (claim source) opcodes = .ok result ↔ Extends opcodes variants result := by
  induction variants generalizing opcodes with
  | nil =>
    rw [extends_nil_iff, List.foldlM_nil]
    exact ⟨fun hok => (Except.ok.inj hok).symm, fun heq => heq ▸ rfl⟩
  | cons variant rest ih =>
    rw [List.foldlM_cons, bind_eq_ok_iff, ← List.singleton_append, extends_append_iff]
    simp only [claim_eq_ok_iff, ih]

theorem addSource_outcome (opcodes : OrderedMap Int Variant) (source : Source) :
    (addSource opcodes source).outcome = source.variants.foldlM (claim source.name) opcodes := by
  rw [addSource, Logged.outcome_bind, Logged.outcome_of]
  cases source.variants.foldlM (claim source.name) opcodes <;> rfl

/-- The sources are taken in as if they were one list of variants. Their names only matter to
faults. -/
theorem foldlM_addSource_eq_ok_iff {sources : List Source}
    {opcodes result : OrderedMap Int Variant} :
    (sources.foldlM addSource opcodes).outcome = .ok result ↔
      Extends opcodes (extracted sources) result := by
  simp only [Logged.outcome_foldlM, addSource_outcome]
  induction sources generalizing opcodes with
  | nil =>
    rw [extracted_nil, extends_nil_iff, List.foldlM_nil]
    exact ⟨fun hok => (Except.ok.inj hok).symm, fun heq => heq ▸ rfl⟩
  | cons source rest ih =>
    rw [List.foldlM_cons, bind_eq_ok_iff, extracted_cons, extends_append_iff]
    simp only [foldlM_claim_eq_ok_iff, ih]

/-- The map that the empty one grows into. -/
theorem exists_extends_empty_iff {variants : List Variant} :
    (∃ result, Extends .empty variants result) ↔
      (∀ variant ∈ variants, variant.size = variant.mode.size) ∧
        (variants.map Variant.opcode).Nodup := by
  constructor
  · rintro ⟨result, hextends⟩
    exact ⟨hextends.size_eq, by simpa [OrderedMap.keys, OrderedMap.empty] using hextends.nodup⟩
  · rintro ⟨hsize, hnodup⟩
    refine ⟨⟨variants.map fun variant => (variant.opcode, variant), ?_⟩, hsize, ?_, rfl⟩
    · simpa [Function.comp_def] using hnodup
    · simpa [OrderedMap.keys, OrderedMap.empty] using hnodup

/-- The registry names what a source lists and what a variant carries. -/
theorem mem_registryOf_iff {sources : List Source} {name : Text} :
    name ∈ registryOf sources ↔
      (∃ source ∈ sources, name ∈ source.mnemonics) ∨
        ∃ variant ∈ extracted sources, variant.mnemonic = name := by
  rw [registryOf, List.mem_eraseDups, List.mem_flatMap]
  constructor
  · rintro ⟨source, hsource, hname⟩
    obtain hname | hname := List.mem_append.mp hname
    · exact Or.inl ⟨source, hsource, hname⟩
    · obtain ⟨variant, hvariant, rfl⟩ := List.mem_map.mp hname
      exact Or.inr ⟨variant, List.mem_flatMap.mpr ⟨source, hsource, hvariant⟩, rfl⟩
  · rintro (⟨source, hsource, hname⟩ | ⟨variant, hvariant, rfl⟩)
    · exact ⟨source, hsource, List.mem_append_left _ hname⟩
    · obtain ⟨source, hsource, hvariant⟩ := List.mem_flatMap.mp hvariant
      exact ⟨source, hsource, List.mem_append_right _ (List.mem_map_of_mem hvariant)⟩

/-- The mnemonics of the sources that no entry carries. -/
def orphans (sources : List Source) (opcodes : OrderedMap Int Variant) : List Text :=
  (registryOf sources).filter fun name => !(opcodes.values.map Variant.mnemonic).contains name

/-- A mnemonic is an orphan exactly if some source lists it and no variant carries it. -/
theorem orphans_eq_nil_iff {sources : List Source} {opcodes : OrderedMap Int Variant}
    (hvalues : opcodes.values = extracted sources) :
    orphans sources opcodes = [] ↔
      ∀ source ∈ sources, ∀ name ∈ source.mnemonics,
        ∃ variant ∈ extracted sources, variant.mnemonic = name := by
  simp only [orphans, List.filter_eq_nil_iff, Bool.not_eq_true', Bool.not_eq_false,
    List.contains_iff_mem, hvalues, List.mem_map, mem_registryOf_iff]
  constructor
  · intro hused source hsource name hname
    exact hused name (Or.inl ⟨source, hsource, hname⟩)
  · rintro hused name (⟨source, hsource, hname⟩ | hvariant)
    · exact hused source hsource name hname
    · exact hvariant

theorem merge_outcome (sources : List Source) :
    (merge sources).outcome = (sources.foldlM addSource .empty).outcome >>= fun opcodes =>
      if (orphans sources opcodes).isEmpty then
        .ok ⟨opcodes, registryOf sources, sources.map Source.name⟩
      else .error ⟨.orphanMnemonics (orphans sources opcodes), some { document := "merge" }⟩ := by
  rw [merge, Logged.outcome_bind, Logged.outcome_sayAll]
  change (sources.foldlM addSource .empty >>= _).outcome = _
  rw [Logged.outcome_bind]
  refine congrArg _ (funext fun opcodes => ?_)
  change (ite ((orphans sources opcodes).isEmpty = true) _ _ : Logged Table).outcome = _
  split <;> rfl

theorem Extends.values_eq {variants : List Variant} {opcodes : OrderedMap Int Variant}
    (hextends : Extends .empty variants opcodes) : opcodes.values = variants := by
  simp [OrderedMap.values, hextends.entries_eq, OrderedMap.empty, Function.comp_def]

/-- A merge succeeds exactly with the map that takes in all variants, if no mnemonic is an
orphan. -/
theorem merge_outcome_eq_ok_iff {sources : List Source} {table : Table} :
    (merge sources).outcome = .ok table ↔
      Extends .empty (extracted sources) table.opcodes ∧
        (∀ source ∈ sources, ∀ name ∈ source.mnemonics,
          ∃ variant ∈ extracted sources, variant.mnemonic = name) ∧
        table.registry = registryOf sources ∧ table.sources = sources.map Source.name := by
  rw [merge_outcome, bind_eq_ok_iff]
  constructor
  · rintro ⟨opcodes, hopcodes, htable⟩
    have hextends := foldlM_addSource_eq_ok_iff.mp hopcodes
    split at htable
    · next hnone =>
      obtain rfl := Except.ok.inj htable
      refine ⟨hextends, ?_, rfl, rfl⟩
      exact (orphans_eq_nil_iff hextends.values_eq).mp (List.isEmpty_iff.mp hnone)
    · cases htable
  · rintro ⟨hextends, hused, hregistry, hsources⟩
    have hnone := (orphans_eq_nil_iff hextends.values_eq).mpr hused
    refine ⟨table.opcodes, foldlM_addSource_eq_ok_iff.mpr hextends, ?_⟩
    rw [if_pos (List.isEmpty_iff.mpr hnone), ← hregistry, ← hsources]

theorem exists_merge_iff {sources : List Source} :
    (∃ table, (merge sources).outcome = .ok table) ↔ Mergeable sources := by
  constructor
  · rintro ⟨table, hmerge⟩
    obtain ⟨hextends, hused, -, -⟩ := merge_outcome_eq_ok_iff.mp hmerge
    obtain ⟨hsize, hnodup⟩ := exists_extends_empty_iff.mp ⟨_, hextends⟩
    exact ⟨hsize, hnodup, hused⟩
  · rintro ⟨hsize, hnodup, hused⟩
    obtain ⟨opcodes, hextends⟩ := exists_extends_empty_iff.mpr ⟨hsize, hnodup⟩
    exact ⟨⟨opcodes, registryOf sources, sources.map Source.name⟩,
      merge_outcome_eq_ok_iff.mpr ⟨hextends, hused, rfl, rfl⟩⟩

/-- The union of the sources exists exactly if they share out the opcodes among themselves, with
fitting sizes and no listed mnemonic left over. Its entries are then all variants in order, each
under its own opcode, so that a look-up answers with the one variant of an opcode or not at
all. -/
theorem merge_succeeds_iff_mergeable (sources : List Source) :
    ((∃ table, (merge sources).outcome = .ok table) ↔ Mergeable sources) ∧
      ∀ table, (merge sources).outcome = .ok table →
        table.opcodes.entries =
            (extracted sources).map (fun variant => (variant.opcode, variant)) ∧
          table.size = (extracted sources).length ∧
          (∀ opcode variant, table.lookup opcode = some variant ↔
            variant ∈ extracted sources ∧ variant.opcode = opcode) ∧
          (∀ opcode, table.lookup opcode = none ↔
            ∀ variant ∈ extracted sources, variant.opcode ≠ opcode) ∧
          table.sources = sources.map Source.name := by
  refine ⟨exists_merge_iff, fun table htable => ?_⟩
  obtain ⟨hextends, -, -, hsources⟩ := merge_outcome_eq_ok_iff.mp htable
  have hentries : table.opcodes.entries =
      (extracted sources).map fun variant => (variant.opcode, variant) := by
    simpa [OrderedMap.empty] using hextends.entries_eq
  have hkeys : table.opcodes.keys = (extracted sources).map Variant.opcode := by
    simpa [OrderedMap.keys, OrderedMap.empty] using hextends.keys_eq
  refine ⟨hentries, ?_, fun opcode variant => ?_, fun opcode => ?_, hsources⟩
  · simp [Table.size, OrderedMap.size, hentries]
  · rw [Table.lookup, OrderedMap.get?_eq_some_iff, hentries, List.mem_map]
    constructor
    · rintro ⟨other, hother, heq⟩
      obtain ⟨rfl, rfl⟩ := Prod.mk.inj heq
      exact ⟨hother, rfl⟩
    · rintro ⟨hmem, rfl⟩
      exact ⟨variant, hmem, rfl⟩
  · rw [Table.lookup, OrderedMap.get?_eq_none_iff, hkeys, List.mem_map]
    simp

end OpcodeAtlas.Table
