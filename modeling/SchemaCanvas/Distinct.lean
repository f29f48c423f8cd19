/-!
# First occurrences

`distinct` keeps the first occurrence of each member of a list: it has the same members
(`mem_distinct`), each once (`nodup_distinct`). What has come before adds nothing
(`distinct_append_of_subset`).
-/

namespace SchemaCanvas

variable {α : Type} [DecidableEq α]

/-- The first occurrence of each member of a list, in order. -/
def distinct : List α → List α
  | [] => []
  | a :: as => a :: (distinct as).filter (· ≠ a)

@[simp] theorem mem_distinct {a : α} {as : List α} : a ∈ distinct as ↔ a ∈ as := by
  induction as with
  | nil => simp [distinct]
  | cons b bs ih => by_cases h : a = b <;> simp [distinct, ih, h]

/-- No value is listed twice. -/
theorem nodup_distinct (as : List α) : (distinct as).Nodup := by
  induction as with
  | nil => exact List.nodup_nil
  | cons b bs ih =>
    rw [distinct, List.nodup_cons]
    exact ⟨by simp, ih.sublist List.filter_sublist⟩

/-- Members that are distinct all are first occurrences. -/
theorem distinct_of_nodup {as : List α} (h : as.Nodup) : distinct as = as := by
  induction as with
  | nil => rfl
  | cons a as ih =>
    obtain ⟨hnew, hrest⟩ := List.nodup_cons.1 h
    rw [distinct, ih hrest, List.filter_eq_self.2 fun b hb => ?_]
    simpa using fun e : b = a => hnew (e ▸ hb)

/-- The order of a list changes nothing but the order of its first occurrences. -/
theorem distinct_perm {as bs : List α} (h : as.Perm bs) : (distinct as).Perm (distinct bs) :=
  (List.perm_ext_iff_of_nodup (nodup_distinct as) (nodup_distinct bs)).2 fun a => by
    rw [mem_distinct, mem_distinct, h.mem_iff]

/-- Of two lists in a row, the second one adds the members that the first one does not have. -/
theorem distinct_append (as bs : List α) :
    distinct (as ++ bs) = distinct as ++ (distinct bs).filter (· ∉ as) := by
  induction as with
  | nil =>
    rw [List.nil_append, distinct, List.nil_append]
    exact (List.filter_eq_self.2 fun b _ => by simp).symm
  | cons a as ih =>
    rw [List.cons_append, distinct, ih, List.filter_append, List.filter_filter, distinct,
      List.cons_append]
    congr 2
    refine List.filter_congr fun b _ => ?_
    simp [not_or]

/-- Members that have come before add nothing. -/
theorem distinct_append_of_subset {as bs : List α} (h : bs ⊆ as) :
    distinct (as ++ bs) = distinct as := by
  rw [distinct_append, List.filter_eq_nil_iff.2, List.append_nil]
  intro b hb
  simpa using h (mem_distinct.1 hb)

/-- A last member adds itself, unless it has come before. -/
theorem distinct_concat (as : List α) (a : α) :
    distinct (as ++ [a]) = if a ∈ as then distinct as else distinct as ++ [a] := by
  split
  · next h => exact distinct_append_of_subset fun b hb => List.mem_singleton.1 hb ▸ h
  · next h =>
    have hone : distinct [a] = [a] := rfl
    rw [distinct_append, hone, List.filter_cons_of_pos (by simpa using h), List.filter_nil]

/-- A list in the middle whose values came before adds nothing. -/
theorem distinct_append_append_of_subset {as bs : List α} (h : bs ⊆ as) (cs : List α) :
    distinct (as ++ bs ++ cs) = distinct (as ++ cs) := by
  rw [distinct_append (as ++ bs), distinct_append_of_subset h, distinct_append as]
  congr 1
  refine List.filter_congr fun c _ => ?_
  have hmem : c ∈ as ++ bs ↔ c ∈ as :=
    ⟨fun hc => (List.mem_append.1 hc).elim id (h ·), List.mem_append_left bs⟩
  simp only [hmem]

end SchemaCanvas
