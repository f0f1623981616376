import OpcodeAtlas.Proofs.Table.Union

namespace OpcodeAtlas.Table

/-- Why a variant of the named source cannot join the earlier ones: its size is not that of its mode,
or else an earlier variant has its opcode. -/
inductive Refusal (source : Text) (earlier : List Variant) (variant : Variant) : Fault → Prop where
  | size (hsize : variant.size ≠ variant.mode.size) :
    Refusal source earlier variant {
      cause := .sizeMismatch variant.opcode variant.size variant.mode
      location? := some { document := source, part? := some variant.mnemonic } }
  | opcode (hsize : variant.size = variant.mode.size) {claimant : Variant}
      (hclaimant : claimant ∈ earlier) (hopcode : claimant.opcode = variant.opcode) :
    Refusal source earlier variant
      ⟨.opcodeCollision variant.opcode claimant.describe variant.describe, none⟩

/-- The variants can be taken in together. -/
def Compatible (variants : List Variant) : Prop :=
  ∃ opcodes, Extends .empty variants opcodes

/-- The first variant of the sources that cannot join those before it is refused with the fault. -/
def FirstRefusal (sources : List Source) (fault : Fault) : Prop :=
  ∃ done source rest before variant after, sources = done ++ source :: rest ∧
    source.variants = before ++ variant :: after ∧
    Compatible (extracted done ++ before) ∧
    Refusal source.name (extracted done ++ before) variant fault

theorem claim_eq_error_iff {source : Text} {earlier : List Variant}
    {opcodes : OrderedMap Int Variant} (hextends : Extends .empty earlier opcodes)
    {variant : Variant} {fault : Fault} :
    claim source opcodes variant = .error fault ↔ Refusal source earlier variant fault := by
  -- The look-up finds the one earlier variant with the opcode, if there is any.
  have hclaimed : ∀ claimant, opcodes.get? variant.opcode = some claimant ↔
      claimant ∈ earlier ∧ claimant.opcode = variant.opcode := by
    intro claimant
    rw [OrderedMap.get?_eq_some_iff, hextends.entries_eq]
    simp only [OrderedMap.empty, List.nil_append, List.mem_map, Prod.mk.injEq]
    constructor
    · rintro ⟨claimant, hmem, hopcode, rfl⟩
      exact ⟨hmem, hopcode⟩
    · rintro ⟨hmem, hopcode⟩
      exact ⟨claimant, hmem, hopcode, rfl⟩
  rw [claim, bind_eq_error_iff]
  by_cases hsize : variant.size = variant.mode.size
  · have hcheck : checkSize source variant = .ok () := if_pos hsize
    rw [hcheck]
    constructor
    · rintro (herror | ⟨_, -, herror⟩)
      · cases herror
      · split at herror
        · next claimant hget =>
          obtain rfl := Except.error.inj herror
          obtain ⟨hmem, hopcode⟩ := (hclaimed claimant).mp hget
          exact .opcode hsize hmem hopcode
        · cases herror
    · intro hrefusal
      cases hrefusal with
      | size hne => exact absurd hsize hne
      | opcode _ hmem hopcode =>
        refine Or.inr ⟨(), rfl, ?_⟩
        rw [(hclaimed _).mpr ⟨hmem, hopcode⟩]
  · have hcheck : checkSize source variant = .error _ := if_neg hsize
    rw [hcheck]
    constructor
    · rintro (herror | ⟨_, hok, -⟩)
      · obtain rfl := Except.error.inj herror
        exact .size hsize
      · cases hok
    · intro hrefusal
      cases hrefusal with
      | size => exact Or.inl rfl
      | opcode heq => exact absurd heq hsize

/-- A source is refused for the first of its variants that is. -/
theorem foldlM_claim_eq_error_iff {source : Text} {earlier variants : List Variant}
    {opcodes : OrderedMap Int Variant} (hextends : Extends .empty earlier opcodes) {fault : Fault} :
    variants.foldlM (claim source) opcodes = .error fault ↔
      ∃ before variant after, variants = before ++ variant :: after ∧
        Compatible (earlier ++ before) ∧ Refusal source (earlier ++ before) variant fault := by
  rw [foldlM_eq_error_iff]
  simp only [foldlM_claim_eq_ok_iff]
  constructor
  · rintro ⟨before, variant, after, state, hvariants, hbefore, hclaim⟩
    have hstate := extends_append_iff.mpr ⟨opcodes, hextends, hbefore⟩
    exact ⟨before, variant, after, hvariants, ⟨state, hstate⟩, (claim_eq_error_iff hstate).mp hclaim⟩
  · rintro ⟨before, variant, after, hvariants, ⟨state, hstate⟩, hrefusal⟩
    obtain ⟨middle, hmiddle, hbefore⟩ := extends_append_iff.mp hstate
    -- The earlier variants lead to one map only, so the step starts from the given one.
    have hsame : middle = opcodes :=
      OrderedMap.ext_entries (hmiddle.entries_eq.trans hextends.entries_eq.symm)
    exact ⟨before, variant, after, state, hvariants, hsame ▸ hbefore,
      (claim_eq_error_iff hstate).mpr hrefusal⟩

theorem foldlM_addSource_eq_error_iff {sources : List Source} {fault : Fault} :
    (sources.foldlM addSource .empty).outcome = .error fault ↔ FirstRefusal sources fault := by
  rw [Logged.outcome_foldlM, foldlM_eq_error_iff]
  simp only [addSource_outcome]
  constructor
  · rintro ⟨done, source, rest, opcodes, hsources, hdone, hsource⟩
    have hextends : Extends .empty (extracted done) opcodes := by
      apply foldlM_addSource_eq_ok_iff.mp
      simpa only [Logged.outcome_foldlM, addSource_outcome] using hdone
    obtain ⟨before, variant, after, hvariants, hcompatible, hrefusal⟩ :=
      (foldlM_claim_eq_error_iff hextends).mp hsource
    exact ⟨done, source, rest, before, variant, after, hsources, hvariants, hcompatible, hrefusal⟩
  · rintro ⟨done, source, rest, before, variant, after, hsources, hvariants, ⟨state, hstate⟩,
      hrefusal⟩
    obtain ⟨opcodes, hdone, -⟩ := extends_append_iff.mp hstate
    refine ⟨done, source, rest, opcodes, hsources, ?_, ?_⟩
    · have hfold := foldlM_addSource_eq_ok_iff.mpr hdone
      simpa only [Logged.outcome_foldlM, addSource_outcome] using hfold
    · exact (foldlM_claim_eq_error_iff hdone).mpr
        ⟨before, variant, after, hvariants, ⟨state, hstate⟩, hrefusal⟩

/-- A merge fails for the first variant that is refused. If there is none, it fails for the mnemonics
that no variant carries. -/
theorem merge_eq_error_iff {sources : List Source} {fault : Fault} :
    (merge sources).outcome = .error fault ↔
      FirstRefusal sources fault ∨
        ∃ opcodes, Extends .empty (extracted sources) opcodes ∧ orphans sources opcodes ≠ [] ∧
          fault = ⟨.orphanMnemonics (orphans sources opcodes), some { document := "merge" }⟩ := by
  rw [merge_outcome, bind_eq_error_iff, foldlM_addSource_eq_error_iff]
  simp only [foldlM_addSource_eq_ok_iff]
  refine or_congr_right (exists_congr fun opcodes => and_congr_right fun _ => ?_)
  constructor
  · intro herror
    split at herror
    · cases herror
    · next hsome => exact ⟨fun hnil => hsome (List.isEmpty_iff.mpr hnil), (Except.error.inj herror).symm⟩
  · rintro ⟨hsome, rfl⟩
    rw [if_neg (fun hnil => hsome (List.isEmpty_iff.mp hnil))]

end OpcodeAtlas.Table
