/-!
# Registries

A registry holds values under distinct text keys and keeps the order in which the keys came. Putting
a value under a key that is already there replaces the value and keeps its place; a new key goes to
the end. `Registry.get?_insert_self`, `Registry.get?_insert_of_ne` and `Registry.keys_insert` say
what an insertion does to the two views of a registry, its look-up and its keys.
-/

namespace SchemaCanvas

/-- Values under distinct keys, in the order in which the keys came. -/
structure Registry (α : Type) where
  items : List (String × α)
  nodup_keys : (items.map Prod.fst).Nodup
  deriving DecidableEq

namespace Registry

variable {α β : Type}

/-- Registries with the same items, in the same order, are the same. -/
@[ext] theorem ext {r s : Registry α} (h : r.items = s.items) : r = s := by
  cases r; cases s; cases h; rfl

/-- The registry that holds nothing. -/
def empty : Registry α :=
  ⟨[], List.nodup_nil⟩

instance : EmptyCollection (Registry α) := ⟨empty⟩

instance : Inhabited (Registry α) := ⟨empty⟩

/-- The keys, in order. -/
def keys (r : Registry α) : List String :=
  r.items.map Prod.fst

/-- The values, in the order of their keys. -/
def values (r : Registry α) : List α :=
  r.items.map Prod.snd

/-- The number of keys. -/
def size (r : Registry α) : Nat :=
  r.items.length

/-- The value that a list of items holds under `key`: that of the first item with the key. -/
def lookup (key : String) : List (String × α) → Option α
  | [] => none
  | item :: items => if item.1 = key then some item.2 else lookup key items

/-- The value under `key`. -/
def get? (r : Registry α) (key : String) : Option α :=
  lookup key r.items

/-- Whether there is a value under `key`. -/
def contains (r : Registry α) (key : String) : Bool :=
  decide (key ∈ r.keys)

/-- The items with `value` in place of the value under `key`. -/
def replace (key : String) (value : α) (items : List (String × α)) : List (String × α) :=
  items.map fun item => if item.1 = key then (key, value) else item

/-- Replacing a value keeps the keys and their order. -/
theorem map_fst_replace (key : String) (value : α) (items : List (String × α)) :
    (replace key value items).map Prod.fst = items.map Prod.fst := by
  rw [replace, List.map_map]
  apply List.map_congr_left
  intro item _
  by_cases h : item.1 = key <;> simp [h]

/-- Puts `value` under `key`: in the place of the value already there, or else at the end. -/
def insert (r : Registry α) (key : String) (value : α) : Registry α :=
  if h : key ∈ r.keys then
    ⟨replace key value r.items, by rw [map_fst_replace]; exact r.nodup_keys⟩
  else
    ⟨r.items ++ [(key, value)], by
      rw [List.map_append, List.nodup_append]
      refine ⟨r.nodup_keys, by simp, fun k hk k' hk' e => h ?_⟩
      have e : k = key := e.trans (List.mem_singleton.1 hk')
      exact e ▸ hk⟩

/-- Puts `value` under `key` unless there is a value already. -/
def insertNew (r : Registry α) (key : String) (value : α) : Registry α :=
  if key ∈ r.keys then r else r.insert key value

/-- The registry of the items put in one after another. -/
def ofList (items : List (String × α)) : Registry α :=
  items.foldl (fun r item => r.insert item.1 item.2) empty

/-- The registry with each value changed, under the same keys. -/
def mapItems (r : Registry α) (f : String → α → β) : Registry β :=
  ⟨r.items.map fun item => (item.1, f item.1 item.2), by
    rw [List.map_map]
    exact r.nodup_keys⟩

/-- The registry with each value changed or dropped, under the same keys. -/
def filterMap (r : Registry α) (f : String → α → Option β) : Registry β :=
  ⟨r.items.filterMap fun item => (f item.1 item.2).map (item.1, ·), by
    refine List.Nodup.sublist ?_ r.nodup_keys
    induction r.items with
    | nil => exact List.Sublist.slnil
    | cons item items ih =>
      cases h : f item.1 item.2 with
      | none => simpa [h] using ih.cons item.1
      | some value => simpa [h] using ih⟩

/-- Nothing is looked up exactly under what is no key. -/
theorem lookup_eq_none {key : String} {items : List (String × α)} :
    lookup key items = none ↔ key ∉ items.map Prod.fst := by
  induction items with
  | nil => simp [lookup]
  | cons item items ih =>
    by_cases h : item.1 = key
    · simp [lookup, h]
    · simp only [lookup, if_neg h, ih, List.map_cons, List.mem_cons, not_or, true_and,
        show ¬ key = item.1 from fun e => h e.symm, not_false_eq_true]

@[simp] theorem get?_eq_none {r : Registry α} {key : String} :
    r.get? key = none ↔ key ∉ r.keys :=
  lookup_eq_none

/-- There is a value under every key and under nothing else. -/
theorem isSome_get? {r : Registry α} {key : String} :
    (r.get? key).isSome = true ↔ key ∈ r.keys := by
  rw [← Option.ne_none_iff_isSome, ne_eq, get?_eq_none, Classical.not_not]

/-- A registry contains exactly its keys. -/
theorem contains_iff {r : Registry α} {key : String} : r.contains key = true ↔ key ∈ r.keys := by
  simp [contains]

/-- Putting in a value adds its key at the end, unless the key is there already. -/
theorem keys_insert (r : Registry α) (key : String) (value : α) :
    (r.insert key value).keys = if key ∈ r.keys then r.keys else r.keys ++ [key] := by
  rw [insert]
  split
  · exact map_fst_replace ..
  · simp [keys]

/-- What is looked up in a list that goes on is found in the first part, or else in the second. -/
theorem lookup_append (key : String) (items more : List (String × α)) :
    lookup key (items ++ more) = (lookup key items).or (lookup key more) := by
  induction items with
  | nil => simp [lookup]
  | cons item items ih => by_cases h : item.1 = key <;> simp [lookup, h, ih]

/-- Under the key of a replaced value the new value is found. -/
theorem lookup_replace_self {key : String} {value : α} {items : List (String × α)}
    (h : key ∈ items.map Prod.fst) : lookup key (replace key value items) = some value := by
  induction items with
  | nil => simp at h
  | cons item items ih =>
    by_cases hi : item.1 = key
    · simp [replace, lookup, hi]
    · have hm : key ∈ items.map Prod.fst := by
        rcases List.mem_cons.1 h with e | hm
        · exact absurd e.symm hi
        · exact hm
      simpa [replace, lookup, hi] using ih hm

/-- Replacing the value of one key changes what is found under no other key. -/
theorem lookup_replace_of_ne {key other : String} (h : other ≠ key) (value : α)
    (items : List (String × α)) : lookup other (replace key value items) = lookup other items := by
  induction items with
  | nil => rfl
  | cons item items ih =>
    by_cases hi : item.1 = key
    · simpa [replace, lookup, hi, h.symm] using ih
    · simp only [replace, List.map_cons, if_neg hi, lookup] at ih ⊢
      rw [ih]

@[simp] theorem get?_insert_self (r : Registry α) (key : String) (value : α) :
    (r.insert key value).get? key = some value := by
  rw [insert]
  split
  · next h => exact lookup_replace_self h
  · next h => simp [get?, lookup_append, lookup_eq_none.2 h, lookup]

/-- Putting in a value under one key changes what is found under no other key. -/
theorem get?_insert_of_ne {key other : String} (h : other ≠ key) (r : Registry α) (value : α) :
    (r.insert key value).get? other = r.get? other := by
  rw [insert]
  split
  · exact lookup_replace_of_ne h value r.items
  · simp [get?, lookup_append, lookup, h.symm]

end Registry

end SchemaCanvas
