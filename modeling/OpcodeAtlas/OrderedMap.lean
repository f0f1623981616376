namespace OpcodeAtlas

/-- A map that remembers the order in which its keys were first inserted. No key occurs twice, so
    a look-up is a question about the one entry with that key. -/
structure OrderedMap (κ α : Type) where
  entries : List (κ × α)
  nodup_keys : (entries.map Prod.fst).Nodup

namespace OrderedMap

variable {κ α : Type}

def empty : OrderedMap κ α :=
  ⟨[], List.nodup_nil⟩

instance : Inhabited (OrderedMap κ α) := ⟨empty⟩

def keys (map : OrderedMap κ α) : List κ :=
  map.entries.map Prod.fst

def values (map : OrderedMap κ α) : List α :=
  map.entries.map Prod.snd

def size (map : OrderedMap κ α) : Nat :=
  map.entries.length

variable [DecidableEq κ]

def get? (map : OrderedMap κ α) (key : κ) : Option α :=
  map.entries.lookup key

/-- The entries with a new value under the key: in the place of the old one, or else at the
    end. -/
def put (key : κ) (value : α) : List (κ × α) → List (κ × α)
  | [] => [(key, value)]
  | entry :: rest =>
    if entry.1 = key then (key, value) :: rest else entry :: put key value rest

theorem keys_put (key : κ) (value : α) (entries : List (κ × α)) :
    (put key value entries).map Prod.fst =
      if key ∈ entries.map Prod.fst then entries.map Prod.fst
      else entries.map Prod.fst ++ [key] := by
  induction entries with
  | nil => rfl
  | cons entry rest ih =>
    by_cases hkey : entry.1 = key
    · simp [put, hkey]
    · have hne : key ≠ entry.1 := fun heq => hkey heq.symm
      simp only [put, hkey, if_false, List.map_cons, ih, List.mem_cons, hne, false_or]
      split <;> rfl

theorem nodup_keys_put (key : κ) (value : α) {entries : List (κ × α)}
    (hnodup : (entries.map Prod.fst).Nodup) : ((put key value entries).map Prod.fst).Nodup := by
  rw [keys_put]
  split
  · exact hnodup
  · next hfresh =>
    refine List.nodup_append.mpr ⟨hnodup, by simp, ?_⟩
    intro old hold new hnew heq
    rw [List.mem_singleton] at hnew
    exact hfresh (hnew ▸ heq ▸ hold)

/-- A key that is present keeps its place and takes the new value. -/
def insert (map : OrderedMap κ α) (key : κ) (value : α) : OrderedMap κ α :=
  ⟨put key value map.entries, nodup_keys_put key value map.nodup_keys⟩

def ofList (entries : List (κ × α)) : OrderedMap κ α :=
  entries.foldl (fun map entry => map.insert entry.1 entry.2) empty

/-- Counts one more under the key. -/
def increment (map : OrderedMap κ Nat) (key : κ) : OrderedMap κ Nat :=
  map.insert key ((map.get? key).getD 0 + 1)

end OrderedMap

end OpcodeAtlas
