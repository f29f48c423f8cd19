import SchemaCanvas.Registry

/-!
# Registries seen through their look-up

Every operation on a registry is determined by what it does to the look-up: a registry of items put
in one after another holds the last value of each key (`Registry.get?_ofList`), and changing or
dropping values changes or drops what the look-up finds (`Registry.get?_filterMap`). Items with
distinct keys are a registry as they stand (`Registry.items_ofList`), and the keys in their order
and the look-up make up the registry (`Registry.ext_get?`). Registries with the same look-up hold
the same items, though in orders of their own (`Registry.items_perm_iff`).
-/

namespace SchemaCanvas.Registry

variable {α β : Type}

/-! ## Items and look-up -/

@[simp] theorem get?_empty (key : String) : (∅ : Registry α).get? key = none := rfl

@[simp] theorem keys_empty : (∅ : Registry α).keys = [] := rfl

@[simp] theorem items_empty : (∅ : Registry α).items = [] := rfl

/-- What the look-up finds is one of the items. -/
theorem mem_of_lookup {key : String} {value : α} {items : List (String × α)}
    (h : lookup key items = some value) : (key, value) ∈ items := by
  induction items with
  | nil => simp [lookup] at h
  | cons item items ih =>
    by_cases hi : item.1 = key
    · simp only [lookup, if_pos hi, Option.some.injEq] at h
      subst hi; subst h
      exact List.mem_cons_self ..
    · rw [lookup, if_neg hi] at h
      exact List.mem_cons_of_mem _ (ih h)

/-- Under distinct keys every item is found. -/
theorem lookup_of_mem {key : String} {value : α} {items : List (String × α)}
    (hn : (items.map Prod.fst).Nodup) (h : (key, value) ∈ items) :
    lookup key items = some value := by
  induction items with
  | nil => cases h
  | cons item items ih =>
    rw [List.map_cons, List.nodup_cons] at hn
    rcases List.mem_cons.1 h with rfl | h
    · simp [lookup]
    · have hk : item.1 ≠ key := by
        rintro rfl
        exact hn.1 (List.mem_map.2 ⟨_, h, rfl⟩)
      rw [lookup, if_neg hk]
      exact ih hn.2 h

/-- A value is found exactly if it is an item under the key. -/
theorem get?_eq_some {r : Registry α} {key : String} {value : α} :
    r.get? key = some value ↔ (key, value) ∈ r.items :=
  ⟨mem_of_lookup, lookup_of_mem r.nodup_keys⟩

/-- A key under which a value is found is a key of the registry. -/
theorem mem_keys_of_get? {r : Registry α} {key : String} {value : α}
    (h : r.get? key = some value) : key ∈ r.keys :=
  isSome_get?.1 (by rw [h]; rfl)

/-- A key has a value. -/
theorem exists_get? {r : Registry α} {key : String} (h : key ∈ r.keys) :
    ∃ value, r.get? key = some value :=
  Option.isSome_iff_exists.1 (isSome_get?.2 h)

/-- The keys are those under which a value is found. -/
theorem mem_keys_iff {r : Registry α} {key : String} :
    key ∈ r.keys ↔ ∃ value, r.get? key = some value :=
  ⟨exists_get?, fun ⟨_, h⟩ => mem_keys_of_get? h⟩

/-- Putting in a value adds its key and no other. -/
theorem mem_keys_insert {r : Registry α} {key other : String} {value : α} :
    other ∈ (r.insert key value).keys ↔ other = key ∨ other ∈ r.keys := by
  rw [keys_insert]
  split
  · next h =>
    constructor
    · exact Or.inr
    · rintro (rfl | h')
      · exact h
      · exact h'
  · rw [List.mem_append, List.mem_singleton, Or.comm]

/-- Something is there after a value has been put in. -/
theorem items_insert_ne_nil (r : Registry α) (key : String) (value : α) :
    (r.insert key value).items ≠ [] := by
  intro h
  have hkey : key ∈ (r.insert key value).keys := mem_keys_insert.2 (.inl rfl)
  rw [keys, h] at hkey
  cases hkey

/-- The look-up after an insertion, for every key. -/
theorem get?_insert (r : Registry α) (key other : String) (value : α) :
    (r.insert key value).get? other = if other = key then some value else r.get? other := by
  split
  · next h => rw [h, get?_insert_self]
  · next h => exact get?_insert_of_ne h r value

/-! ## What all values have in common -/

section Forall

variable {P : String → α → Prop} {r : Registry α}

/-- Whether all values of a registry have a property together with their keys. -/
def Forall (P : String → α → Prop) (r : Registry α) : Prop :=
  ∀ key value, r.get? key = some value → P key value

/-- Everything holds of all values of the empty registry. -/
theorem forall_empty : (∅ : Registry α).Forall P := by
  intro key value h
  rw [get?_empty] at h
  cases h

/-- Putting in a value with the property keeps all values with it. -/
theorem Forall.insert (h : r.Forall P) {key : String} {value : α} (hv : P key value) :
    (r.insert key value).Forall P := by
  intro other value' hv'
  rw [get?_insert] at hv'
  split at hv'
  · next hkey =>
    rw [hkey, ← Option.some.inj hv']
    exact hv
  · exact h other value' hv'

/-- What holds of all items holds of all values under their keys. -/
theorem forall_of_items (h : ∀ item ∈ r.items, P item.1 item.2) : r.Forall P :=
  fun key value hv => h (key, value) (get?_eq_some.1 hv)

/-- What holds of all values under their keys holds of each item. -/
theorem Forall.of_mem_items (h : r.Forall P) {item : String × α} (hi : item ∈ r.items) :
    P item.1 item.2 :=
  h item.1 item.2 (get?_eq_some.2 hi)

end Forall

/-! ## Putting in many items -/

/-- Of the items put in one after another the last one of a key counts. -/
theorem get?_foldl_insert (items : List (String × α)) (r : Registry α) (key : String) :
    (items.foldl (fun r item => r.insert item.1 item.2) r).get? key
      = (lookup key items.reverse).or (r.get? key) := by
  induction items generalizing r with
  | nil => rfl
  | cons item items ih =>
    rw [List.foldl_cons, ih, List.reverse_cons, lookup_append, get?_insert, Option.or_assoc]
    congr 1
    by_cases h : key = item.1
    · simp [lookup, h]
    · simp [lookup, h, Ne.symm h]

/-- Of the items that are put in one after another the last one counts. -/
theorem get?_ofList (items : List (String × α)) (key : String) :
    (ofList items).get? key = lookup key items.reverse := by
  rw [ofList, get?_foldl_insert]
  exact Option.or_none

/-- The keys of items that are put in one after another are those of the items. -/
theorem mem_keys_ofList {items : List (String × α)} {key : String} :
    key ∈ (ofList items).keys ↔ key ∈ items.map Prod.fst := by
  rw [← isSome_get?, get?_ofList, ← Option.ne_none_iff_isSome, ne_eq, lookup_eq_none,
    Classical.not_not, List.map_reverse, List.mem_reverse]

/-- An item under a new key goes to the end. -/
theorem items_insert_of_not_mem {r : Registry α} {key : String} (h : key ∉ r.keys) (value : α) :
    (r.insert key value).items = r.items ++ [(key, value)] := by
  rw [insert, dif_neg h]

/-- Items with new keys are put in at the end, in order. -/
theorem items_foldl_insert {items : List (String × α)} {r : Registry α}
    (h : ((r.items ++ items).map Prod.fst).Nodup) :
    (items.foldl (fun r item => r.insert item.1 item.2) r).items = r.items ++ items := by
  induction items generalizing r with
  | nil => simp
  | cons item items ih =>
    have hk : item.1 ∉ r.keys := by
      rw [List.map_append, List.nodup_append] at h
      exact fun hm => h.2.2 _ hm _ (by simp) rfl
    have hi := items_insert_of_not_mem hk item.2
    rw [List.foldl_cons, ih (by rw [hi]; simpa using h), hi]
    simp

/-- Items with distinct keys are kept as they stand. -/
theorem items_ofList {items : List (String × α)} (h : (items.map Prod.fst).Nodup) :
    (ofList items).items = items := by
  rw [ofList, items_foldl_insert (r := empty) (by simpa [empty] using h)]
  rfl

/-- Putting in the items of a registry one after another gives the registry. -/
theorem ofList_items (r : Registry α) : ofList r.items = r :=
  ext (items_ofList r.nodup_keys)

/-- The items of a registry hide what another one holds under their keys. -/
theorem get?_foldl_items (r s : Registry α) (key : String) :
    (s.items.foldl (fun r item => r.insert item.1 item.2) r).get? key
      = (s.get? key).or (r.get? key) := by
  rw [get?_foldl_insert, ← get?_ofList, ofList_items]

/-! ## Equality -/

/-- Lists with the same distinct keys, under which the same values are found, are the same. -/
theorem eq_of_lookup {items more : List (String × α)} (hn : (items.map Prod.fst).Nodup)
    (hk : items.map Prod.fst = more.map Prod.fst)
    (h : ∀ key ∈ items.map Prod.fst, lookup key items = lookup key more) : items = more := by
  induction items generalizing more with
  | nil => exact (List.map_eq_nil_iff.1 hk.symm).symm
  | cons item items ih =>
    cases more with
    | nil => cases hk
    | cons other more =>
      rw [List.map_cons, List.map_cons, List.cons.injEq] at hk
      rw [List.map_cons, List.nodup_cons] at hn
      have hvalue := h item.1 List.mem_cons_self
      rw [lookup, if_pos rfl, lookup, if_pos hk.1.symm, Option.some.injEq] at hvalue
      have htail : items = more := by
        refine ih hn.2 hk.2 fun key hkey => ?_
        have hne : item.1 ≠ key := fun e => hn.1 (e ▸ hkey)
        have hsame := h key (List.mem_cons_of_mem _ hkey)
        rwa [lookup, if_neg hne, lookup, if_neg (hk.1 ▸ hne)] at hsame
      rw [Prod.ext hk.1 hvalue, htail]

/-- Items of a registry are told by their keys. -/
theorem eq_of_map_fst {r : Registry α} {xs ys : List (String × α)} (hx : xs ⊆ r.items)
    (hy : ys ⊆ r.items) (h : xs.map Prod.fst = ys.map Prod.fst) : xs = ys := by
  induction xs generalizing ys with
  | nil => exact (List.map_eq_nil_iff.1 h.symm).symm
  | cons x xs ih =>
    cases ys with
    | nil => cases h
    | cons y ys =>
      obtain ⟨hkey, hkeys⟩ := List.cons.inj h
      obtain ⟨hxi, hxs⟩ := List.cons_subset.1 hx
      obtain ⟨hyi, hys⟩ := List.cons_subset.1 hy
      have hvalue := get?_eq_some.2 hxi
      rw [hkey, get?_eq_some.2 hyi, Option.some.injEq] at hvalue
      rw [Prod.ext hkey hvalue.symm, ih hxs hys hkeys]

/-- Registries with the same keys in the same order and the same values under them are the same. -/
theorem ext_get? {r s : Registry α} (hk : r.keys = s.keys)
    (h : ∀ key ∈ r.keys, r.get? key = s.get? key) : r = s :=
  ext (eq_of_lookup r.nodup_keys hk h)

/-- No item is there twice. -/
theorem nodup_items (r : Registry α) : r.items.Nodup :=
  List.Pairwise.of_map Prod.fst (fun _ _ hne heq => hne (congrArg Prod.fst heq)) r.nodup_keys

/-- Registries hold the same items in some order when they hold the same values under all keys. -/
theorem items_perm_iff {r s : Registry α} :
    r.items.Perm s.items ↔ ∀ key, r.get? key = s.get? key := by
  constructor
  · intro h key
    refine Option.ext fun value => ?_
    rw [get?_eq_some, get?_eq_some, h.mem_iff]
  · intro h
    refine (List.perm_ext_iff_of_nodup r.nodup_items s.nodup_items).2 fun item => ?_
    rw [← get?_eq_some, ← get?_eq_some, h]

/-- Putting the value under a key that is there already changes nothing. -/
theorem insert_of_get? {r : Registry α} {key : String} {value : α} (h : r.get? key = some value) :
    r.insert key value = r := by
  refine ext_get? ?_ fun other _ => ?_
  · rw [keys_insert, if_pos (mem_keys_of_get? h)]
  · rw [get?_insert]
    split
    · next ho => rw [ho, h]
    · rfl

/-- Of two values put under a key one after the other the second counts. -/
theorem insert_insert (r : Registry α) (key : String) (value value' : α) :
    (r.insert key value).insert key value' = r.insert key value' := by
  refine ext_get? ?_ fun other _ => ?_
  · have hkey : key ∈ (r.insert key value).keys := mem_keys_insert.2 (.inl rfl)
    rw [keys_insert _ key value', if_pos hkey, keys_insert, keys_insert]
  · rw [get?_insert, get?_insert, get?_insert]
    split <;> rfl

/-- Putting in values under keys that are there keeps the keys. -/
theorem keys_foldl_insert {items : List (String × α)} {r : Registry α}
    (h : ∀ item ∈ items, item.1 ∈ r.keys) :
    (items.foldl (fun r item => r.insert item.1 item.2) r).keys = r.keys := by
  induction items generalizing r with
  | nil => rfl
  | cons item items ih =>
    have hkeys : (r.insert item.1 item.2).keys = r.keys := by
      rw [keys_insert, if_pos (h item List.mem_cons_self)]
    rw [List.foldl_cons, ih fun i hi => hkeys ▸ h i (List.mem_cons_of_mem item hi), hkeys]

/-- Of items that are put in twice, in the same order and with other values, the second ones
count. -/
theorem foldl_insert_ofList {items more : List (String × α)}
    (hk : items.map Prod.fst = more.map Prod.fst) (hn : (more.map Prod.fst).Nodup) :
    more.foldl (fun r item => r.insert item.1 item.2) (ofList items) = ofList more := by
  have hkeys : (ofList items).keys = more.map Prod.fst := by
    rw [keys, items_ofList (hk ▸ hn), hk]
  have hfold : (more.foldl (fun r item => r.insert item.1 item.2) (ofList items)).keys
      = (ofList items).keys :=
    keys_foldl_insert fun item hi => hkeys ▸ List.mem_map_of_mem hi
  refine ext_get? ?_ fun key hkey => ?_
  · rw [hfold, hkeys, keys, items_ofList hn]
  · rw [hfold, hkeys] at hkey
    have hsome : lookup key more.reverse ≠ none := fun hnone =>
      lookup_eq_none.1 hnone (by rwa [List.map_reverse, List.mem_reverse])
    obtain ⟨value, hvalue⟩ := Option.ne_none_iff_exists'.1 hsome
    rw [get?_foldl_insert, get?_ofList more, hvalue]
    rfl

/-! ## Changing the values -/

/-- Under a key is what the change makes of the value there, if it keeps one. -/
theorem get?_filterMap (r : Registry α) (f : String → α → Option β) (key : String) :
    (r.filterMap f).get? key = (r.get? key).bind (f key) := by
  cases hr : r.get? key with
  | none =>
    rw [get?_eq_none] at hr
    simp only [Option.bind_none, get?_eq_none]
    intro hk
    obtain ⟨value, hv⟩ := exists_get? hk
    obtain ⟨item, hi, hv⟩ := List.mem_filterMap.1 (get?_eq_some.1 hv)
    obtain ⟨_, _, he⟩ := Option.map_eq_some_iff.1 hv
    cases he
    exact hr (List.mem_map.2 ⟨item, hi, rfl⟩)
  | some value =>
    rw [Option.bind_some]
    have hi := get?_eq_some.1 hr
    cases hf : f key value with
    | some value' =>
      exact get?_eq_some.2 (List.mem_filterMap.2 ⟨(key, value), hi, by simp [hf]⟩)
    | none =>
      rw [get?_eq_none]
      intro hk
      obtain ⟨value', hv⟩ := exists_get? hk
      obtain ⟨item, hi', hv⟩ := List.mem_filterMap.1 (get?_eq_some.1 hv)
      obtain ⟨other, ho, he⟩ := Option.map_eq_some_iff.1 hv
      cases he
      have hs : r.get? item.1 = some item.2 := get?_eq_some.2 hi'
      rw [hr, Option.some.injEq] at hs
      rw [← hs, hf] at ho
      cases ho

/-- Changing values without dropping any keeps the keys in their order. -/
theorem keys_filterMap {r : Registry α} {f : String → α → Option β}
    (h : ∀ key value, r.get? key = some value → (f key value).isSome = true) :
    (r.filterMap f).keys = r.keys := by
  have hitems : ∀ items : List (String × α),
      (∀ item ∈ items, (f item.1 item.2).isSome = true) →
      (items.filterMap fun item => (f item.1 item.2).map (item.1, ·)).map Prod.fst
        = items.map Prod.fst := by
    intro items hall
    induction items with
    | nil => rfl
    | cons item items ih =>
      obtain ⟨value, hvalue⟩ := Option.isSome_iff_exists.1 (hall item List.mem_cons_self)
      rw [List.filterMap_cons_some (by rw [hvalue]; rfl), List.map_cons, List.map_cons,
        ih fun i hi => hall i (List.mem_cons_of_mem _ hi)]
  exact hitems r.items fun item hi => h item.1 item.2 (get?_eq_some.2 hi)

end SchemaCanvas.Registry
