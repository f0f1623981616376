import OpcodeAtlas.OrderedMap
import Mathlib.Algebra.GroupWithZero.Nat
import Mathlib.Data.List.Nodup
import Mathlib.Tactic.SplitIfs

namespace OpcodeAtlas.OrderedMap

variable {κ α : Type}

theorem ext_entries {map other : OrderedMap κ α} (hentries : map.entries = other.entries) :
    map = other := by
  obtain ⟨entries, hnodup⟩ := map
  obtain rfl : entries = other.entries := hentries
  rfl

variable [DecidableEq κ]

theorem get?_eq_none_iff {map : OrderedMap κ α} {key : κ} :
    map.get? key = none ↔ key ∉ map.keys := by
  rw [get?, List.lookup_eq_none_iff, keys, List.mem_map, not_exists]
  constructor
  · rintro hnone entry ⟨hentry, rfl⟩
    simpa using hnone entry hentry
  · intro hnone entry hentry
    simpa using fun heq => hnone entry ⟨hentry, heq.symm⟩

private theorem lookup_eq_some_iff_mem {key : κ} {value : α} {entries : List (κ × α)}
    (hnodup : (entries.map Prod.fst).Nodup) :
    entries.lookup key = some value ↔ (key, value) ∈ entries := by
  induction entries with
  | nil => simp
  | cons entry rest ih =>
    rw [List.map_cons, List.nodup_cons] at hnodup
    rw [List.lookup_cons]
    by_cases hkey : key = entry.1
    · subst hkey
      have habsent : (entry.1, value) ∉ rest := fun hmem =>
        hnodup.1 (List.mem_map.mpr ⟨_, hmem, rfl⟩)
      simp [habsent, Prod.ext_iff, eq_comm]
    · have hne : (key, value) ≠ entry := fun heq => hkey (congrArg Prod.fst heq)
      simp only [beq_eq_false_iff_ne.mpr hkey, List.mem_cons, hne, false_or]
      exact ih hnodup.2

/-- Since no key occurs twice, a look-up finds an entry wherever it stands. -/
theorem get?_eq_some_iff {map : OrderedMap κ α} {key : κ} {value : α} :
    map.get? key = some value ↔ (key, value) ∈ map.entries :=
  lookup_eq_some_iff_mem map.nodup_keys

/-- What a key leads to does not depend on the order of the entries. -/
theorem get?_eq_of_perm {map other : OrderedMap κ α} (hperm : map.entries.Perm other.entries)
    (key : κ) : map.get? key = other.get? key := by
  apply Option.ext
  intro value
  rw [get?_eq_some_iff, get?_eq_some_iff, hperm.mem_iff]

section Lookup

variable [BEq κ] [LawfulBEq κ]

private theorem lookup_cons_eq (entry : κ × α) (rest : List (κ × α)) (key : κ) :
    (entry :: rest).lookup key = if key = entry.1 then some entry.2 else rest.lookup key := by
  rw [List.lookup_cons]
  by_cases hkey : key = entry.1
  · rw [beq_iff_eq.mpr hkey, if_pos hkey]
  · rw [beq_eq_false_iff_ne.mpr hkey, if_neg hkey]

/-- An entry that is put hides what its key led to, and nothing else. -/
theorem lookup_put (key : κ) (value : α) (entries : List (κ × α)) (other : κ) :
    (put key value entries).lookup other = if other = key then some value else entries.lookup other := by
  induction entries with
  | nil => rw [put, lookup_cons_eq]
  | cons entry rest ih =>
    rw [put]
    split
    · next hkey =>
      rw [lookup_cons_eq, lookup_cons_eq, hkey]
      split_ifs <;> rfl
    · next hkey =>
      rw [lookup_cons_eq, lookup_cons_eq, ih]
      split_ifs with hother hother'
      · exact absurd (hother.symm.trans hother') hkey
      · rfl
      · rfl
      · rfl

/-- What is there already can be put again. -/
theorem put_eq_self {key : κ} {value : α} {entries : List (κ × α)}
    (hlookup : entries.lookup key = some value) : put key value entries = entries := by
  induction entries with
  | nil => cases hlookup
  | cons entry rest ih =>
    rw [lookup_cons_eq] at hlookup
    rw [put]
    split
    · next hkey =>
      rw [if_pos hkey.symm] at hlookup
      rw [← hkey, ← Option.some.inj hlookup]
    · next hkey =>
      rw [if_neg (Ne.symm hkey)] at hlookup
      rw [ih hlookup]

end Lookup

private theorem put_of_not_mem {key : κ} {value : α} {entries : List (κ × α)}
    (hfresh : key ∉ entries.map Prod.fst) : put key value entries = entries ++ [(key, value)] := by
  induction entries with
  | nil => rfl
  | cons entry rest ih =>
    rw [List.map_cons, List.mem_cons, not_or] at hfresh
    rw [put, if_neg (Ne.symm hfresh.1), ih hfresh.2, List.cons_append]

/-- A new key goes to the end. -/
theorem entries_insert_of_not_mem {map : OrderedMap κ α} {key : κ} (hfresh : key ∉ map.keys)
    (value : α) : (map.insert key value).entries = map.entries ++ [(key, value)] :=
  put_of_not_mem hfresh

/-- Entries under new keys go to the end, in their order. -/
theorem entries_foldl_insert {map : OrderedMap κ α} {more : List (κ × α)}
    (hnodup : (map.keys ++ more.map Prod.fst).Nodup) :
    (more.foldl (fun map entry => map.insert entry.1 entry.2) map).entries = map.entries ++ more := by
  induction more generalizing map with
  | nil => rw [List.append_nil]; rfl
  | cons entry rest ih =>
    rw [List.map_cons, List.append_cons] at hnodup
    have hfresh : entry.1 ∉ map.keys := by
      intro hmem
      have hdisjoint := (List.nodup_append.mp (List.nodup_append.mp hnodup).1).2.2
      exact hdisjoint _ hmem _ List.mem_cons_self rfl
    have hentries := entries_insert_of_not_mem hfresh entry.2
    have hkeys : (map.insert entry.1 entry.2).keys = map.keys ++ [entry.1] := by
      rw [keys, hentries, List.map_append]
      rfl
    rw [List.foldl_cons, ih (hkeys ▸ hnodup), hentries, List.append_assoc]
    rfl

theorem entries_ofList {entries : List (κ × α)} (hnodup : (entries.map Prod.fst).Nodup) :
    (ofList entries).entries = entries :=
  @entries_foldl_insert κ α _ empty entries hnodup

section Increment

/-- The map counts the occurrences of each key, and has no key that does not occur. -/
def Counts (map : OrderedMap κ Nat) (keys : List κ) : Prop :=
  ∀ key n, map.get? key = some n ↔ 0 < n ∧ keys.count key = n

theorem get?_increment (map : OrderedMap κ Nat) (key other : κ) :
    (map.increment key).get? other =
      if other = key then some ((map.get? key).getD 0 + 1) else map.get? other :=
  lookup_put key _ map.entries other

theorem counts_empty : (empty : OrderedMap κ Nat).Counts [] := by
  intro key n
  refine iff_of_false nofun ?_
  rintro ⟨hpos, hcount⟩
  rw [List.count_nil] at hcount
  omega

theorem Counts.getD_eq {map : OrderedMap κ Nat} {keys : List κ} (hcounts : map.Counts keys)
    (key : κ) : (map.get? key).getD 0 = keys.count key := by
  cases hget : map.get? key with
  | some n => exact ((hcounts key n).mp hget).2.symm
  | none =>
    by_contra hne
    have hpos : 0 < keys.count key := Nat.pos_of_ne_zero (Ne.symm hne)
    rw [(hcounts key _).mpr ⟨hpos, rfl⟩] at hget
    cases hget

theorem Counts.increment {map : OrderedMap κ Nat} {keys : List κ} (hcounts : map.Counts keys)
    (key : κ) : (map.increment key).Counts (keys ++ [key]) := by
  intro other n
  rw [get?_increment, List.count_append, List.count_singleton]
  split
  · next hother =>
    subst hother
    rw [hcounts.getD_eq, Option.some.injEq, beq_self_eq_true, if_pos rfl]
    constructor
    · rintro rfl
      exact ⟨Nat.succ_pos _, rfl⟩
    · exact fun hcount => hcount.2
  · next hother =>
    rw [hcounts, if_neg (by simpa using Ne.symm hother), Nat.add_zero]

theorem Counts.foldl_increment {map : OrderedMap κ Nat} {keys more : List κ}
    (hcounts : map.Counts keys) : (more.foldl OrderedMap.increment map).Counts (keys ++ more) := by
  induction more generalizing map keys with
  | nil => rwa [List.append_nil]
  | cons key rest ih => simpa using ih (hcounts.increment key)

private theorem sum_put (key : κ) (entries : List (κ × Nat)) :
    ((put key ((entries.lookup key).getD 0 + 1) entries).map Prod.snd).sum =
      (entries.map Prod.snd).sum + 1 := by
  induction entries with
  | nil => rfl
  | cons entry rest ih =>
    rw [lookup_cons_eq, put]
    by_cases hkey : entry.1 = key
    · rw [if_pos hkey, if_pos hkey.symm]
      simp only [Option.getD_some, List.map_cons, List.sum_cons]
      omega
    · rw [if_neg hkey, if_neg (Ne.symm hkey)]
      simp only [List.map_cons, List.sum_cons, ih]
      omega

theorem sum_increment (map : OrderedMap κ Nat) (key : κ) :
    (map.increment key).values.sum = map.values.sum + 1 :=
  sum_put key map.entries

/-- Every key that is counted adds one to the sum. -/
theorem sum_foldl_increment (map : OrderedMap κ Nat) (keys : List κ) :
    (keys.foldl increment map).values.sum = map.values.sum + keys.length := by
  induction keys generalizing map with
  | nil => rfl
  | cons key rest ih =>
    rw [List.foldl_cons, ih, sum_increment, List.length_cons]
    omega

/-- The map that counts keys from nothing. -/
theorem counts_foldl_increment (keys : List κ) : (keys.foldl increment empty).Counts keys :=
  counts_empty.foldl_increment

theorem sum_counted (keys : List κ) : (keys.foldl increment empty).values.sum = keys.length :=
  (sum_foldl_increment empty keys).trans (Nat.zero_add _)

end Increment

end OpcodeAtlas.OrderedMap
