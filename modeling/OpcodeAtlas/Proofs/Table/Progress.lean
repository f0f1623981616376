import OpcodeAtlas.Proofs.Table.Refusal
import Mathlib.Order.Bounds.Basic

namespace OpcodeAtlas.Table

/-- The places of the variants that do not fit in with those before them: the size is not that of
the mode, or the opcode is taken. -/
def refusedPlaces (variants : List Variant) : Set Nat :=
  {n | ∃ variant, variants[n]? = some variant ∧
    (variant.size ≠ variant.mode.size ∨
      ∃ earlier ∈ variants.take n, earlier.opcode = variant.opcode)}

/-- The variants of all sources, each with the number of its source. -/
def numbered (sources : List Source) : List (Nat × Variant) :=
  sources.zipIdx.flatMap fun entry => entry.1.variants.map (Prod.mk entry.2)

/-- The line in the log for a source that is taken in as a whole. -/
def tally (source : Source) : Text :=
  "  " ++ source.name ++ ": " ++ Numeral.ofNat source.variants.length ++ " opcodes"

/-- The mnemonics of the registry that no variant carries, in the order of the registry. -/
def unclaimed (sources : List Source) : List Text :=
  (registryOf sources).filter fun name =>
    !((extracted sources).map Variant.mnemonic).contains name

/-- Variants of which none is refused can be taken in together. -/
theorem compatible_take {variants : List Variant} {n : Nat}
    (hnone : ∀ m < n, m ∉ refusedPlaces variants) : Compatible (variants.take n) := by
  rw [Compatible, exists_extends_empty_iff]
  constructor
  · intro variant hmem
    obtain ⟨m, hm, rfl⟩ := List.mem_take_iff_getElem.mp hmem
    by_contra hsize
    exact hnone m (by omega) ⟨_, List.getElem?_eq_getElem (by omega), Or.inl hsize⟩
  · rw [List.Nodup, List.pairwise_map, List.pairwise_iff_getElem]
    intro i j hi hj hlt hopcode
    rw [List.length_take] at hi hj
    rw [List.getElem_take, List.getElem_take] at hopcode
    refine hnone j (by omega) ⟨_, List.getElem?_eq_getElem (by omega), Or.inr ⟨_, ?_, hopcode⟩⟩
    exact List.mem_take_iff_getElem.mpr ⟨i, by omega, rfl⟩

/-- A variant of all sources belongs to one of them, behind the sources and variants before it. -/
theorem exists_split_of_getElem? {sources : List Source} {n : Nat} {variant : Variant}
    (hget : (extracted sources)[n]? = some variant) :
    ∃ done source rest before after, sources = done ++ source :: rest ∧
      source.variants = before ++ variant :: after ∧ n = (extracted done ++ before).length := by
  induction sources generalizing n with
  | nil => simp [extracted_nil] at hget
  | cons source rest ih =>
    rw [extracted_cons] at hget
    by_cases hn : n < source.variants.length
    · rw [List.getElem?_append_left hn] at hget
      obtain ⟨-, rfl⟩ := List.getElem?_eq_some_iff.mp hget
      refine ⟨[], source, rest, source.variants.take n, source.variants.drop (n + 1), rfl, ?_, ?_⟩
      · rw [← List.drop_eq_getElem_cons hn, List.take_append_drop]
      · simp [extracted_nil, hn.le]
    · rw [List.getElem?_append_right (Nat.le_of_not_lt hn)] at hget
      obtain ⟨done, owner, others, before, after, rfl, hvariants, hplace⟩ := ih hget
      refine ⟨source :: done, owner, others, before, after, rfl, hvariants, ?_⟩
      rw [extracted_cons, List.append_assoc, List.length_append, ← hplace]
      omega

section Split

variable {done rest : List Source} {source : Source} {before after : List Variant}
  {variant : Variant}

theorem extracted_split (hvariants : source.variants = before ++ variant :: after) :
    extracted (done ++ source :: rest) =
      (extracted done ++ before) ++ variant :: (after ++ extracted rest) := by
  rw [extracted, List.flatMap_append, List.flatMap_cons, hvariants]
  simp [extracted]

theorem getElem?_extracted_split (hvariants : source.variants = before ++ variant :: after) :
    (extracted (done ++ source :: rest))[(extracted done ++ before).length]? = some variant := by
  rw [extracted_split hvariants, List.getElem?_append_right (Nat.le_refl _), Nat.sub_self]
  rfl

theorem take_extracted_split (hvariants : source.variants = before ++ variant :: after) :
    (extracted (done ++ source :: rest)).take (extracted done ++ before).length =
      extracted done ++ before := by
  rw [extracted_split hvariants, List.take_left]

theorem getElem?_numbered_split (hvariants : source.variants = before ++ variant :: after) :
    (numbered (done ++ source :: rest))[(extracted done ++ before).length]? =
      some (done.length, variant) := by
  have hlength : ∀ (sources : List Source) (first : Nat),
      ((sources.zipIdx first).flatMap fun entry => entry.1.variants.map (Prod.mk entry.2)).length =
        (extracted sources).length := by
    intro sources
    induction sources with
    | nil => exact fun _ => rfl
    | cons source rest ih =>
      intro first
      rw [List.zipIdx_cons, List.flatMap_cons, extracted_cons, List.length_append,
        List.length_append, List.length_map, ih]
  rw [numbered, List.zipIdx_append, List.zipIdx_cons, List.flatMap_append, List.flatMap_cons,
    hvariants, List.length_append, List.getElem?_append_right (by rw [hlength]; omega), hlength,
    Nat.add_sub_cancel_left]
  simp

end Split

theorem exists_mem_refusedPlaces {sources : List Source} {fault : Fault}
    (hfirst : FirstRefusal sources fault) : ∃ n, n ∈ refusedPlaces (extracted sources) := by
  obtain ⟨done, source, rest, before, variant, after, rfl, hvariants, -, hrefusal⟩ := hfirst
  refine ⟨_, variant, getElem?_extracted_split hvariants, ?_⟩
  rw [take_extracted_split hvariants]
  cases hrefusal with
  | size hsize => exact Or.inl hsize
  | opcode _ hmem hopcode => exact Or.inr ⟨_, hmem, hopcode⟩

/-- A source that is taken in as a whole is logged by its line. Another one is not logged. -/
theorem addSource_log (opcodes : OrderedMap Int Variant) (source : Source) :
    (addSource opcodes source).log =
      match (addSource opcodes source).outcome with
      | .ok _ => [tally source]
      | .error _ => [] := by
  rw [addSource_outcome, addSource]
  cases hclaims : source.variants.foldlM (claim source.name) opcodes with
  | error fault => exact Logged.log_bind_of_error rfl _
  | ok opcodes => rfl

theorem foldlM_addSource_log_of_ok {sources : List Source} {opcodes : OrderedMap Int Variant}
    (hok : (sources.foldlM addSource .empty).outcome = .ok opcodes) :
    (sources.foldlM addSource .empty).log = sources.map tally := by
  have hstep : ∀ state source next, (addSource state source).outcome = .ok next →
      (addSource state source).log = [tally source] := by
    intro state source next hnext
    rw [addSource_log, hnext]
  rw [Logged.log_foldlM_of_ok hstep hok, List.map_eq_flatMap]

theorem foldlM_addSource_log_of_error {done rest : List Source} {source : Source}
    {opcodes : OrderedMap Int Variant} {fault : Fault}
    (hdone : (done.foldlM addSource .empty).outcome = .ok opcodes)
    (hsource : (addSource opcodes source).outcome = .error fault) :
    ((done ++ source :: rest).foldlM addSource .empty).log = done.map tally := by
  rw [Logged.log_foldlM_of_error hdone hsource, foldlM_addSource_log_of_ok hdone, addSource_log,
    hsource, List.append_nil]

/-- What a merge logs before it takes in the first source. -/
def opening : List Text :=
  [] :: banner "MERGING OPCODE TABLES"

theorem merge_log_of_error {sources : List Source} {fault : Fault}
    (hsources : (sources.foldlM addSource .empty).outcome = .error fault) :
    (merge sources).log = opening ++ (sources.foldlM addSource .empty).log := by
  rw [merge, Logged.log_bind_of_ok (Logged.outcome_sayAll _)]
  exact congrArg _ (Logged.log_bind_of_error hsources _)

theorem merge_log_of_orphans {sources : List Source} {opcodes : OrderedMap Int Variant}
    (hsources : (sources.foldlM addSource .empty).outcome = .ok opcodes)
    (hsome : orphans sources opcodes ≠ []) :
    (merge sources).log = opening ++ (sources.foldlM addSource .empty).log := by
  rw [orphans, Ne, ← List.isEmpty_iff] at hsome
  rw [merge, Logged.log_bind_of_ok (Logged.outcome_sayAll _)]
  refine congrArg _ ((Logged.log_bind_of_ok hsources _).trans ?_)
  dsimp only
  rw [if_neg hsome]
  exact List.append_nil _

/-- The last line in the log of a merge that succeeds. -/
def closing (opcodes mnemonics : Nat) : Text :=
  "✓ Merged " ++ Numeral.ofNat opcodes ++ " opcodes, " ++ Numeral.ofNat mnemonics ++ " mnemonics"

theorem merge_log_of_ok {sources : List Source} {table : Table}
    (hmerge : (merge sources).outcome = .ok table) :
    (merge sources).log =
      opening ++ sources.map tally ++ [closing table.size table.registry.length] := by
  obtain ⟨hextends, hused, hregistry, -⟩ := merge_outcome_eq_ok_iff.mp hmerge
  have hsources := foldlM_addSource_eq_ok_iff.mpr hextends
  have hnone := (orphans_eq_nil_iff hextends.values_eq).mpr hused
  rw [orphans, ← List.isEmpty_iff] at hnone
  rw [merge, Logged.log_bind_of_ok (Logged.outcome_sayAll _), List.append_assoc,
    ← foldlM_addSource_log_of_ok hsources]
  refine congrArg _ ((Logged.log_bind_of_ok hsources _).trans ?_)
  dsimp only
  rw [if_pos hnone, Logged.log_say_pure, hregistry]
  rfl

theorem orphans_eq_unclaimed {sources : List Source} {opcodes : OrderedMap Int Variant}
    (hextends : Extends .empty (extracted sources) opcodes) :
    orphans sources opcodes = unclaimed sources := by
  rw [orphans, hextends.values_eq, unclaimed]

/-- Of variants that fit together, one only can have claimed an opcode. -/
theorem Compatible.place_unique {variants : List Variant} (hcompatible : Compatible variants)
    {m k : Nat} {claimant other : Variant} (hclaimant : variants[m]? = some claimant)
    (hother : variants[k]? = some other) (hopcode : other.opcode = claimant.opcode) : k = m := by
  obtain ⟨-, hnodup⟩ := exists_extends_empty_iff.mp hcompatible
  have hk : k < (variants.map Variant.opcode).length := by
    rw [List.length_map]
    exact (List.getElem?_eq_some_iff.mp hother).1
  rw [← List.getElem?_inj hk hnodup, List.getElem?_map, List.getElem?_map, hother, hclaimant,
    Option.map_some, Option.map_some, hopcode]

/-- A merge ends in the source that has a refused variant, after the sources before it. -/
theorem merge_of_refusal {done : List Source} (rest : List Source) {source : Source}
    {before after : List Variant} {variant : Variant} {fault : Fault}
    (hvariants : source.variants = before ++ variant :: after)
    (hcompatible : Compatible (extracted done ++ before))
    (hrefusal : Refusal source.name (extracted done ++ before) variant fault) :
    (merge (done ++ source :: rest)).outcome = .error fault ∧
      (merge (done ++ source :: rest)).log = opening ++ done.map tally := by
  have hfirst : FirstRefusal (done ++ source :: rest) fault :=
    ⟨done, source, rest, before, variant, after, rfl, hvariants, hcompatible, hrefusal⟩
  refine ⟨merge_eq_error_iff.mpr (Or.inl hfirst), ?_⟩
  obtain ⟨result, hresult⟩ := hcompatible
  obtain ⟨opcodes, hopcodes, -⟩ := extends_append_iff.mp hresult
  have hdone := foldlM_addSource_eq_ok_iff.mpr hopcodes
  have hsource : (addSource opcodes source).outcome = .error fault := by
    rw [addSource_outcome, foldlM_claim_eq_error_iff hopcodes]
    exact ⟨before, variant, after, hvariants, ⟨result, hresult⟩, hrefusal⟩
  rw [merge_log_of_error (foldlM_addSource_eq_error_iff.mpr hfirst),
    foldlM_addSource_log_of_error hdone hsource]

/-- A merge ends at the first variant, over all sources, that does not fit in with those before it.
A wrong size is reported before an opcode that is taken, and a taken opcode with the one variant
that has it. Only if all variants fit in can the merge end with the mnemonics that none of them
carries. The log tells of the sources that were taken in as a whole until then. -/
theorem merge_ends_at_first (sources : List Source) :
    (∀ n, IsLeast (refusedPlaces (extracted sources)) n →
      ∃ number source variant fault, (extracted sources)[n]? = some variant ∧
        (numbered sources)[n]? = some (number, variant) ∧ sources[number]? = some source ∧
        (merge sources).outcome = .error fault ∧
        (merge sources).log = opening ++ (sources.take number).map tally ∧
        (variant.size ≠ variant.mode.size →
          fault.kind = .shape ∧
            fault.cause = .sizeMismatch variant.opcode variant.size variant.mode ∧
            fault.location?.map Location.text = some (source.name ++ ':' :: variant.mnemonic)) ∧
        (variant.size = variant.mode.size →
          ∃ m claimant, m < n ∧ (extracted sources)[m]? = some claimant ∧
            claimant.opcode = variant.opcode ∧
            (∀ k other, k < n → (extracted sources)[k]? = some other →
              other.opcode = variant.opcode → k = m) ∧
            fault = ⟨.opcodeCollision variant.opcode claimant.describe variant.describe, none⟩)) ∧
    (refusedPlaces (extracted sources) = ∅ → ∀ fault, (merge sources).outcome = .error fault →
      fault = ⟨.orphanMnemonics (unclaimed sources), some { document := "merge" }⟩ ∧
        fault.kind = .shape ∧
        fault.message = "mnemonics without any opcode: " ++ Text.join ", " (unclaimed sources) ∧
        unclaimed sources ≠ [] ∧
        (merge sources).log = opening ++ sources.map tally) := by
  constructor
  · intro n hleast
    obtain ⟨variant, hvariant, hrefused⟩ := hleast.1
    obtain ⟨done, source, rest, before, after, rfl, hvariants, rfl⟩ :=
      exists_split_of_getElem? hvariant
    have hsource : (done ++ source :: rest)[done.length]? = some source := by simp
    have hprocessed : (done ++ source :: rest).take done.length = done := List.take_left
    have htake : (extracted (done ++ source :: rest)).take (extracted done ++ before).length =
        extracted done ++ before := take_extracted_split hvariants
    have hcompatible : Compatible (extracted done ++ before) := by
      rw [← htake]
      exact compatible_take fun m hm hmem => Nat.lt_irrefl _ (hm.trans_le (hleast.2 hmem))
    have hearlier : ∀ m < (extracted done ++ before).length,
        (extracted (done ++ source :: rest))[m]? = (extracted done ++ before)[m]? := by
      intro m hm
      rw [extracted_split hvariants, List.getElem?_append_left hm]
    rw [htake] at hrefused
    -- The size is tested before the opcode, so of two faults it is the one that is reported.
    by_cases hsize : variant.size = variant.mode.size
    · obtain ⟨claimant, hmem, hopcode⟩ := hrefused.resolve_left (not_not.mpr hsize)
      obtain ⟨m, hm⟩ := List.mem_iff_getElem?.mp hmem
      have hlt := (List.getElem?_eq_some_iff.mp hm).1
      obtain ⟨houtcome, hlog⟩ := merge_of_refusal rest hvariants hcompatible
        (.opcode hsize hmem hopcode)
      refine ⟨_, source, variant, _, hvariant, getElem?_numbered_split hvariants, hsource, houtcome,
        ?_, fun hne => absurd hsize hne, fun _ => ⟨m, claimant, hlt, ?_, hopcode, ?_, rfl⟩⟩
      · rw [hprocessed, hlog]
      · rw [hearlier m hlt, hm]
      · intro k other hk hother hsame
        rw [hearlier k hk] at hother
        exact hcompatible.place_unique hm hother (hsame.trans hopcode.symm)
    · obtain ⟨houtcome, hlog⟩ := merge_of_refusal rest hvariants hcompatible (.size hsize)
      refine ⟨_, source, variant, _, hvariant, getElem?_numbered_split hvariants, hsource, houtcome,
        ?_, fun _ => ?_, fun heq => absurd heq hsize⟩
      · rw [hprocessed, hlog]
      · exact ⟨rfl, rfl, congrArg some (Location.text_of_part _ _)⟩
  · intro hnone fault hmerge
    obtain hfirst | ⟨opcodes, hextends, hsome, rfl⟩ := merge_eq_error_iff.mp hmerge
    · obtain ⟨n, hn⟩ := exists_mem_refusedPlaces hfirst
      exact absurd hn (by simp [hnone])
    · have hsources := foldlM_addSource_eq_ok_iff.mpr hextends
      have hlog := merge_log_of_orphans hsources hsome
      rw [orphans_eq_unclaimed hextends] at hsome ⊢
      refine ⟨rfl, rfl, rfl, hsome, ?_⟩
      rw [hlog, foldlM_addSource_log_of_ok hsources]

/-- A source without variants, and one whose last variant has both faults. -/
def contestedSources : List Source :=
  [{ name := "index", mnemonics := [], variants := [] },
   { name := "official", mnemonics := ["LDA"],
     variants := [
       { opcode := 0xA9, mnemonic := "LDA", size := 2, cycles := 2, cycleMode := .fixed,
         mode := .immediate },
       { opcode := 0xA9, mnemonic := "LDA", size := 2, cycles := 2, cycleMode := .fixed,
         mode := .implied }] }]

example :
    (merge contestedSources).outcome = .error
        ⟨.sizeMismatch 0xA9 2 .implied, some { document := "official", part? := some "LDA" }⟩ ∧
      (merge contestedSources).log = opening ++ ["  index: 0 opcodes".toList] :=
  ⟨rfl, rfl⟩

end OpcodeAtlas.Table
