import OpcodeAtlas.Logged
import Mathlib.Data.List.Forall2

namespace OpcodeAtlas

variable {ε α β : Type}

theorem bind_eq_ok_iff {x : Except ε α} {f : α → Except ε β} {b : β} :
    (x >>= f) = .ok b ↔ ∃ a, x = .ok a ∧ f a = .ok b := by
  cases x <;> simp [Bind.bind, Except.bind]

theorem bind_eq_error_iff {x : Except ε α} {f : α → Except ε β} {e : ε} :
    (x >>= f) = .error e ↔ x = .error e ∨ ∃ a, x = .ok a ∧ f a = .error e := by
  cases x <;> simp [Bind.bind, Except.bind]

/-- A run over a list is stopped by one item of it, in the state that the items before it lead to. -/
theorem foldlM_eq_error_iff {step : β → α → Except ε β} {items : List α} {start : β} {e : ε} :
    items.foldlM step start = .error e ↔
      ∃ before item after state, items = before ++ item :: after ∧
        before.foldlM step start = .ok state ∧ step state item = .error e := by
  induction items generalizing start with
  | nil =>
    refine iff_of_false nofun ?_
    rintro ⟨before, _, _, _, hitems, -⟩
    cases before <;> cases hitems
  | cons first rest ih =>
    rw [List.foldlM_cons, bind_eq_error_iff]
    simp only [ih]
    constructor
    · rintro (hfirst | ⟨next, hfirst, before, item, after, state, rfl, hbefore, hitem⟩)
      · exact ⟨[], first, rest, start, rfl, rfl, hfirst⟩
      · refine ⟨first :: before, item, after, state, rfl, ?_, hitem⟩
        rw [List.foldlM_cons]
        exact bind_eq_ok_iff.mpr ⟨next, hfirst, hbefore⟩
    · rintro ⟨before, item, after, state, hitems, hbefore, hitem⟩
      cases before with
      | nil =>
        obtain ⟨rfl, rfl⟩ := List.cons.inj hitems
        obtain rfl := Except.ok.inj hbefore
        exact Or.inl hitem
      | cons other before =>
        obtain ⟨rfl, rfl⟩ := List.cons.inj hitems
        rw [List.foldlM_cons] at hbefore
        obtain ⟨next, hfirst, hbefore⟩ := bind_eq_ok_iff.mp hbefore
        exact Or.inr ⟨next, hfirst, before, item, after, state, rfl, hbefore, hitem⟩

/-- A list is read item by item, in order. -/
theorem mapM_eq_ok_iff {f : α → Except ε β} {items : List α} {results : List β} :
    items.mapM f = .ok results ↔
      List.Forall₂ (fun item result => f item = .ok result) items results := by
  induction items generalizing results with
  | nil =>
    rw [List.mapM_nil, List.forall₂_nil_left_iff]
    exact ⟨fun hok => (Except.ok.inj hok).symm, fun heq => heq ▸ rfl⟩
  | cons item rest ih =>
    rw [List.mapM_cons, bind_eq_ok_iff, List.forall₂_cons_left_iff]
    constructor
    · rintro ⟨result, hresult, hrest⟩
      obtain ⟨others, hothers, hok⟩ := bind_eq_ok_iff.mp hrest
      exact ⟨result, others, hresult, ih.mp hothers, (Except.ok.inj hok).symm⟩
    · rintro ⟨result, others, hresult, hothers, rfl⟩
      exact ⟨result, hresult, bind_eq_ok_iff.mpr ⟨others, ih.mpr hothers, rfl⟩⟩

/-- Reading a list fails with the fault of the first item that cannot be read. -/
theorem mapM_eq_error_iff {f : α → Except ε β} {items : List α} {e : ε} :
    items.mapM f = .error e ↔
      ∃ before item after results, items = before ++ item :: after ∧
        before.mapM f = .ok results ∧ f item = .error e := by
  induction items with
  | nil =>
    refine iff_of_false nofun ?_
    rintro ⟨before, _, _, _, hitems, -⟩
    cases before <;> cases hitems
  | cons first rest ih =>
    have hpure : ∀ result, ¬∃ results, rest.mapM f = .ok results ∧
        (pure (result :: results) : Except ε (List β)) = .error e := by
      rintro result ⟨_, -, hpure⟩
      cases hpure
    rw [List.mapM_cons, bind_eq_error_iff]
    simp only [bind_eq_error_iff, hpure, or_false, ih]
    constructor
    · rintro (hfirst | ⟨result, hfirst, before, item, after, results, rfl, hbefore, hitem⟩)
      · exact ⟨[], first, rest, [], rfl, rfl, hfirst⟩
      · refine ⟨first :: before, item, after, result :: results, rfl, ?_, hitem⟩
        exact mapM_eq_ok_iff.mpr (.cons hfirst (mapM_eq_ok_iff.mp hbefore))
    · rintro ⟨before, item, after, results, hitems, hbefore, hitem⟩
      cases before with
      | nil =>
        obtain ⟨rfl, rfl⟩ := List.cons.inj hitems
        exact Or.inl hitem
      | cons other before =>
        obtain ⟨rfl, rfl⟩ := List.cons.inj hitems
        rw [List.mapM_cons] at hbefore
        obtain ⟨result, hfirst, hbefore⟩ := bind_eq_ok_iff.mp hbefore
        obtain ⟨others, hbefore, -⟩ := bind_eq_ok_iff.mp hbefore
        exact Or.inr ⟨result, hfirst, before, item, after, others, rfl, hbefore, hitem⟩

theorem exists_mapM_eq_ok_iff {f : α → Except ε β} {items : List α} :
    (∃ results, items.mapM f = .ok results) ↔ ∀ item ∈ items, ∃ result, f item = .ok result := by
  induction items with
  | nil => exact iff_of_true ⟨[], rfl⟩ nofun
  | cons item rest ih =>
    rw [List.forall_mem_cons, ← ih]
    simp only [mapM_eq_ok_iff, List.forall₂_cons_left_iff]
    constructor
    · rintro ⟨_, result, results, hresult, hresults, -⟩
      exact ⟨⟨result, hresult⟩, results, hresults⟩
    · rintro ⟨⟨result, hresult⟩, results, hresults⟩
      exact ⟨_, result, results, hresult, hresults, rfl⟩

/-- The item that cannot be read is found by its index: all items before it can be read. -/
theorem mapM_eq_error_iff_first {f : α → Except ε β} {items : List α} {e : ε} :
    items.mapM f = .error e ↔
      ∃ (index : Nat) (item : α), items[index]? = some item ∧ f item = .error e ∧
        ∀ j < index, ∀ earlier, items[j]? = some earlier → ∃ result, f earlier = .ok result := by
  rw [mapM_eq_error_iff]
  constructor
  · rintro ⟨before, item, after, results, rfl, hbefore, hitem⟩
    refine ⟨before.length, item, by simp, hitem, fun j hj earlier hearlier => ?_⟩
    rw [List.getElem?_append_left hj] at hearlier
    exact exists_mapM_eq_ok_iff.mp ⟨results, hbefore⟩ earlier (List.mem_of_getElem? hearlier)
  · rintro ⟨index, item, hindex, hitem, hbefore⟩
    obtain ⟨hlt, rfl⟩ := List.getElem?_eq_some_iff.mp hindex
    have hread : ∀ earlier ∈ items.take index, ∃ result, f earlier = .ok result := by
      intro earlier hmem
      obtain ⟨j, hj, rfl⟩ := List.mem_take_iff_getElem.mp hmem
      exact hbefore j (by omega) _ (List.getElem?_eq_getElem (by omega))
    obtain ⟨results, hresults⟩ := exists_mapM_eq_ok_iff.mpr hread
    refine ⟨items.take index, items[index], items.drop (index + 1), results, ?_, hresults, hitem⟩
    rw [← List.drop_eq_getElem_cons hlt, List.take_append_drop]

/-- What is read from an item stands where the item stood. -/
theorem exists_getElem?_of_mapM_eq_ok {f : α → Except ε β} {items : List α} {results : List β}
    (hok : items.mapM f = .ok results) {index : Nat} {item : α}
    (hitem : items[index]? = some item) :
    ∃ result, f item = .ok result ∧ results[index]? = some result := by
  obtain ⟨hlength, hread⟩ := List.forall₂_iff_get.mp (mapM_eq_ok_iff.mp hok)
  obtain ⟨hindex, rfl⟩ := List.getElem?_eq_some_iff.mp hitem
  have hresult : index < results.length := hlength ▸ hindex
  exact ⟨results[index], hread index hindex hresult, List.getElem?_eq_getElem hresult⟩

theorem exists_mem_of_forall₂ {R : α → β → Prop} {items : List α} {results : List β}
    (hrelated : List.Forall₂ R items results) {result : β} (hresult : result ∈ results) :
    ∃ item ∈ items, R item result := by
  obtain ⟨hlength, hget⟩ := List.forall₂_iff_get.mp hrelated
  obtain ⟨index, hindex, rfl⟩ := List.mem_iff_getElem.mp hresult
  have hitem : index < items.length := hlength ▸ hindex
  exact ⟨items[index], List.getElem_mem hitem, hget index hitem hindex⟩

/-- What holds of an item exactly if it holds of its partner holds of all items or of neither
list. -/
theorem forall_mem_iff_of_forall₂ {R : α → β → Prop} {p : α → Prop} {q : β → Prop} {items : List α}
    {results : List β} (hrelated : List.Forall₂ R items results)
    (hiff : ∀ item result, R item result → (p item ↔ q result)) :
    (∀ item ∈ items, p item) ↔ ∀ result ∈ results, q result := by
  induction hrelated with
  | nil => simp
  | cons hfirst _ ih => rw [List.forall_mem_cons, List.forall_mem_cons, hiff _ _ hfirst, ih]

/-- Every result was read from an item. -/
theorem exists_mem_of_mapM_eq_ok {f : α → Except ε β} {items : List α} {results : List β}
    (hok : items.mapM f = .ok results) {result : β} (hresult : result ∈ results) :
    ∃ item ∈ items, f item = .ok result :=
  exists_mem_of_forall₂ (mapM_eq_ok_iff.mp hok) hresult

theorem length_of_mapM_eq_ok {f : α → Except ε β} {items : List α} {results : List β}
    (hok : items.mapM f = .ok results) : results.length = items.length :=
  (mapM_eq_ok_iff.mp hok).length_eq.symm

theorem ne_nil_of_mapM_eq_ok {f : α → Except ε β} {items : List α} {results : List β}
    (hok : items.mapM f = .ok results) (hne : items ≠ []) : results ≠ [] := by
  apply List.ne_nil_of_length_pos
  rw [length_of_mapM_eq_ok hok]
  exact List.length_pos_of_ne_nil hne

/-- A reader that undoes the printing of each item undoes the printing of a list. -/
theorem mapM_map_eq_pure {m : Type → Type} [Monad m] [LawfulMonad m] {γ : Type} {print : γ → α}
    {f : α → m β} {g : γ → β} {items : List γ}
    (hitems : ∀ item ∈ items, f (print item) = pure (g item)) :
    (items.map print).mapM f = pure (items.map g) := by
  induction items with
  | nil => rw [List.map_nil, List.map_nil, List.mapM_nil]
  | cons item rest ih =>
    obtain ⟨hitem, hrest⟩ := List.forall_mem_cons.mp hitems
    rw [List.map_cons, List.mapM_cons, hitem, ih hrest, pure_bind, pure_bind, List.map_cons]

theorem mapM_map_eq_ok {γ : Type} {print : γ → α} {f : α → Except ε β} {g : γ → β}
    {items : List γ} (hitems : ∀ item ∈ items, f (print item) = .ok (g item)) :
    (items.map print).mapM f = .ok (items.map g) :=
  mapM_map_eq_pure hitems

/-- A reader that goes by what it can see of an item undoes the printing of what looks alike. -/
theorem mapM_eq_ok_of_map_eq {γ δ : Type} {look : α → γ} {print : δ → γ} {f : α → Except ε β}
    {g : δ → β} {items : List α} {printed : List δ} (halike : items.map look = printed.map print)
    (hread : ∀ item value, look item = print value → f item = .ok (g value)) :
    items.mapM f = .ok (printed.map g) := by
  have hpaired : List.Forall₂ (fun item value => look item = print value) items printed := by
    rw [← List.forall₂_map_right_iff, ← List.forall₂_map_left_iff, List.forall₂_eq_eq_eq]
    exact halike
  rw [mapM_eq_ok_iff, List.forall₂_map_right_iff]
  exact hpaired.imp hread

theorem mapM_zipIdx_eq_ok_of_map_eq {γ δ : Type} {look : α → γ} {print : δ → γ}
    {f : α × Nat → Except ε β} {g : δ → β} {items : List α} {printed : List δ} (start : Nat)
    (halike : items.map look = printed.map print)
    (hread : ∀ item position value, look item = print value → f (item, position) = .ok (g value)) :
    (items.zipIdx start).mapM f = .ok (printed.map g) := by
  have hnumbered : (items.zipIdx start).map (look ∘ Prod.fst) = printed.map print := by
    rw [← List.map_map, List.zipIdx_map_fst, halike]
  exact mapM_eq_ok_of_map_eq hnumbered fun entry value => hread entry.1 entry.2 value

/-- A reader that is also told the position of an item, for its faults, undoes printing as well. -/
theorem mapM_zipIdx_map_eq_ok {γ : Type} {print : γ → α} {f : α × Nat → Except ε β} {g : γ → β}
    {items : List γ} (start : Nat)
    (hitems : ∀ item ∈ items, ∀ position, f (print item, position) = .ok (g item)) :
    ((items.map print).zipIdx start).mapM f = .ok (items.map g) := by
  induction items generalizing start with
  | nil => rfl
  | cons item rest ih =>
    obtain ⟨hitem, hrest⟩ := List.forall_mem_cons.mp hitems
    rw [List.map_cons, List.zipIdx_cons, List.mapM_cons, hitem start, ih (start + 1) hrest]
    rfl

/-- Where success does not depend on the position, the items are read as if there were none. -/
theorem mapM_zipIdx_eq_ok_iff {f : α × Nat → Except ε β} {p : α → Prop} {g : α → β}
    (hread : ∀ item position result, f (item, position) = .ok result ↔ p item ∧ result = g item)
    {items : List α} {start : Nat} {results : List β} :
    (items.zipIdx start).mapM f = .ok results ↔ (∀ item ∈ items, p item) ∧ results = items.map g := by
  induction items generalizing start results with
  | nil => simp [pure, Except.pure, eq_comm]
  | cons item rest ih =>
    rw [List.zipIdx_cons, List.mapM_cons]
    simp only [bind_eq_ok_iff, hread, ih, List.forall_mem_cons, List.map_cons]
    constructor
    · rintro ⟨_, ⟨hitem, rfl⟩, _, ⟨hrest, rfl⟩, hresults⟩
      exact ⟨⟨hitem, hrest⟩, (Except.ok.inj hresults).symm⟩
    · rintro ⟨⟨hitem, hrest⟩, rfl⟩
      exact ⟨_, ⟨hitem, rfl⟩, _, ⟨hrest, rfl⟩, rfl⟩

theorem exists_mapM_zipIdx_eq_ok_iff {f : α × Nat → Except ε β} {items : List α} {start : Nat} :
    (∃ results, (items.zipIdx start).mapM f = .ok results) ↔
      ∀ index item, items[index]? = some item → ∃ result, f (item, start + index) = .ok result := by
  simp only [exists_mapM_eq_ok_iff, List.mem_iff_getElem?, List.getElem?_zipIdx,
    Option.map_eq_some_iff]
  constructor
  · exact fun hall index item hitem => hall _ ⟨index, item, hitem, rfl⟩
  · rintro hall _ ⟨index, item, hitem, rfl⟩
    exact hall index item hitem

/-- Where it does not depend on the position whether an item can be read, neither does it for all
items. -/
theorem exists_mapM_zipIdx_eq_ok_iff_forall {f : α × Nat → Except ε β} {p : α → Prop}
    (hread : ∀ item position, (∃ result, f (item, position) = .ok result) ↔ p item)
    {items : List α} {start : Nat} :
    (∃ results, (items.zipIdx start).mapM f = .ok results) ↔ ∀ item ∈ items, p item := by
  simp only [exists_mapM_zipIdx_eq_ok_iff, hread, List.mem_iff_getElem?, forall_exists_index]
  exact forall_comm

theorem mapM_zipIdx_eq_error_iff {f : α × Nat → Except ε β} {items : List α} {start : Nat} {e : ε} :
    (items.zipIdx start).mapM f = .error e ↔
      ∃ (index : Nat) (item : α), items[index]? = some item ∧ f (item, start + index) = .error e ∧
        ∀ j < index, ∀ earlier, items[j]? = some earlier →
          ∃ result, f (earlier, start + j) = .ok result := by
  rw [mapM_eq_error_iff_first]
  simp only [List.getElem?_zipIdx, Option.map_eq_some_iff]
  constructor
  · rintro ⟨index, _, ⟨item, hindex, rfl⟩, hitem, hbefore⟩
    exact ⟨index, item, hindex, hitem, fun j hj earlier hearlier =>
      hbefore j hj _ ⟨earlier, hearlier, rfl⟩⟩
  · rintro ⟨index, item, hindex, hitem, hbefore⟩
    refine ⟨index, _, ⟨item, hindex, rfl⟩, hitem, ?_⟩
    rintro j hj _ ⟨earlier, hearlier, rfl⟩
    exact hbefore j hj earlier hearlier

/-- What is read from the items of a list tells of them in their order, whatever it says about
each. -/
theorem forall₂_map_of_mapM_eq_ok {γ : Type} {f : α → Except ε β} {g : α → γ} {R : γ → β → Prop}
    (hread : ∀ item result, f item = .ok result → R (g item) result) {items : List α}
    {results : List β} (hok : items.mapM f = .ok results) :
    List.Forall₂ R (items.map g) results := by
  rw [List.forall₂_map_left_iff]
  exact (mapM_eq_ok_iff.mp hok).imp hread

/-- The same value, or faults of the same kind at the same place, whose messages may differ. -/
inductive Alike {α : Type} : Except Fault α → Except Fault α → Prop where
  | ok (value : α) : Alike (.ok value) (.ok value)
  | error {fault other : Fault} (hkind : fault.kind = other.kind)
      (hlocation : fault.location? = other.location?) : Alike (.error fault) (.error other)

theorem Alike.refl {α : Type} (outcome : Except Fault α) : Alike outcome outcome := by
  cases outcome with
  | ok value => exact .ok value
  | error fault => exact .error rfl rfl

theorem Alike.bind {α β : Type} {first second : Except Fault α} (halike : Alike first second)
    (next : α → Except Fault β) : Alike (first >>= next) (second >>= next) := by
  cases halike with
  | ok value => exact .refl (next value)
  | error hkind hlocation => exact .error hkind hlocation

namespace Logged

@[simp]
theorem outcome_of (outcome : Except Fault α) : (Logged.of outcome).outcome = outcome :=
  rfl

@[simp]
theorem outcome_lift (outcome : Except Fault α) :
    (liftM outcome : Logged α).outcome = outcome :=
  rfl

@[simp]
theorem outcome_pure (value : α) : (pure value : Logged α).outcome = .ok value :=
  rfl

@[simp]
theorem outcome_fail (fault : Fault) : (Logged.fail fault : Logged α).outcome = .error fault :=
  rfl

@[simp]
theorem outcome_sayAll (lines : List Text) : (Logged.sayAll lines).outcome = .ok () :=
  rfl

@[simp]
theorem outcome_say (line : Text) : (Logged.say line).outcome = .ok () :=
  rfl

/-- What a stage logs has no influence on what follows. -/
@[simp]
theorem outcome_bind (stage : Logged α) (next : α → Logged β) :
    (stage >>= next).outcome = stage.outcome >>= fun value => (next value).outcome := by
  change (Logged.bind stage next).outcome = _
  rw [Logged.bind]
  cases stage.outcome <;> rfl

theorem outcome_foldlM (step : β → α → Logged β) (items : List α) (start : β) :
    (items.foldlM step start).outcome =
      items.foldlM (fun state item => (step state item).outcome) start := by
  induction items generalizing start with
  | nil => rfl
  | cons item rest ih =>
    rw [List.foldlM_cons, List.foldlM_cons, outcome_bind]
    exact congrArg _ (funext ih)

theorem log_bind_of_ok {stage : Logged α} {value : α} (hok : stage.outcome = .ok value)
    (next : α → Logged β) : (stage >>= next).log = stage.log ++ (next value).log := by
  change (Logged.bind stage next).log = _
  rw [Logged.bind, hok]

theorem log_say_pure (line : Text) (value : α) :
    (Logged.say line >>= fun _ => (pure value : Logged α)).log = [line] :=
  rfl

/-- Nothing is logged behind a fault. -/
theorem log_bind_of_error {stage : Logged α} {fault : Fault} (herror : stage.outcome = .error fault)
    (next : α → Logged β) : (stage >>= next).log = stage.log := by
  change (Logged.bind stage next).log = _
  rw [Logged.bind, herror]

/-- A run that gets through logs what each item is logged with. -/
theorem log_foldlM_of_ok {step : β → α → Logged β} {lines : α → List Text}
    (hstep : ∀ state item next, (step state item).outcome = .ok next →
      (step state item).log = lines item)
    {items : List α} {start final : β} (hok : (items.foldlM step start).outcome = .ok final) :
    (items.foldlM step start).log = items.flatMap lines := by
  induction items generalizing start with
  | nil => rfl
  | cons item rest ih =>
    rw [List.foldlM_cons] at hok ⊢
    obtain ⟨next, hitem, hrest⟩ := bind_eq_ok_iff.mp ((outcome_bind _ _).symm.trans hok)
    rw [log_bind_of_ok hitem, hstep start item next hitem, ih hrest, List.flatMap_cons]

/-- A run that is stopped by an item logs what the items before it and the item itself log. -/
theorem log_foldlM_of_error {step : β → α → Logged β} {before after : List α} {item : α}
    {start state : β} {fault : Fault} (hbefore : (before.foldlM step start).outcome = .ok state)
    (hitem : (step state item).outcome = .error fault) :
    ((before ++ item :: after).foldlM step start).log =
      (before.foldlM step start).log ++ (step state item).log := by
  induction before generalizing start with
  | nil =>
    obtain rfl := Except.ok.inj hbefore
    exact log_bind_of_error hitem _
  | cons first rest ih =>
    rw [List.foldlM_cons] at hbefore
    obtain ⟨next, hfirst, hrest⟩ := bind_eq_ok_iff.mp ((outcome_bind _ _).symm.trans hbefore)
    rw [List.cons_append, List.foldlM_cons, List.foldlM_cons, log_bind_of_ok hfirst,
      log_bind_of_ok hfirst, ih hrest, List.append_assoc]

end Logged

end OpcodeAtlas
