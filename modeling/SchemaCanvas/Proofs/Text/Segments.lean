import SchemaCanvas.Text.Lines

/-!
# Segments and what stands in them

Segments without the separator come back from the text they are joined to (`Text.splitOn_join`). A
mark of two characters, neither of which is the separator, stands in a joined text exactly when it
stands in a segment (`Text.pair_infix_join`).
-/

namespace SchemaCanvas.Text

variable {sep : Char}

/-! ## Joining and splitting -/

/-- Putting segments together puts the separator between them. -/
theorem join_eq_intercalate (segments : List (List Char)) :
    join sep segments = [sep].intercalate segments := by
  induction segments with
  | nil => rfl
  | cons segment segments ih =>
    cases segments with
    | nil => rw [join, List.intercalate_singleton]
    | cons next segments =>
      rw [join, ih, List.intercalate_cons_cons, List.append_assoc, List.singleton_append]
      exact List.cons_ne_nil next segments

/-- Splitting a text at a character is splitting a list at an element. -/
theorem splitOn_eq_splitOn (cs : List Char) : splitOn sep cs = cs.splitOn sep := by
  induction cs with
  | nil => rfl
  | cons c cs ih =>
    rw [splitOn, List.splitOn_cons_eq_if_modifyHead, ← ih]
    by_cases hc : c = sep
    · rw [if_pos hc, if_pos (beq_iff_eq.2 hc)]
    · rw [if_neg hc, if_neg fun h => hc (beq_iff_eq.1 h)]
      cases hs : splitOn sep cs with
      | nil => exact absurd hs (splitOn_ne_nil sep cs)
      | cons segment segments => rfl

/-- A segment that others follow is put before them with a separator. -/
theorem join_cons (segment : List Char) {segments : List (List Char)} (h : segments ≠ []) :
    join sep (segment :: segments) = segment ++ sep :: join sep segments := by
  cases segments with
  | nil => exact absurd rfl h
  | cons next segments => rfl

/-- Segments are joined in two parts as in one. -/
theorem join_append {a b : List (List Char)} (ha : a ≠ []) (hb : b ≠ []) :
    join sep (a ++ b) = join sep a ++ sep :: join sep b := by
  induction a with
  | nil => exact absurd rfl ha
  | cons segment a ih =>
    cases a with
    | nil => exact join_cons segment hb
    | cons next a =>
      rw [List.cons_append, join_cons _ (by simp), join_cons _ (by simp), ih (by simp),
        List.append_assoc, List.cons_append]

/-- The characters of a string that is put together with the separator. -/
theorem toList_intercalate {between : String} (hb : between.toList = [sep])
    (segments : List String) :
    (between.intercalate segments).toList = join sep (segments.map String.toList) := by
  rw [String.toList_intercalate, hb, join_eq_intercalate]

/-- Segments without the separator come back. -/
theorem splitOn_join {segments : List (List Char)} (hne : segments ≠ [])
    (h : ∀ segment ∈ segments, sep ∉ segment) : splitOn sep (join sep segments) = segments := by
  rw [splitOn_eq_splitOn, join_eq_intercalate, List.splitOn_intercalate sep h hne]

/-- No segment of a text holds the separator. -/
theorem not_mem_of_mem_splitOn {cs segment : List Char} (h : segment ∈ splitOn sep cs) :
    sep ∉ segment := by
  induction cs generalizing segment with
  | nil => rw [splitOn, List.mem_singleton] at h; simp [h]
  | cons c cs ih =>
    rw [splitOn] at h
    split at h
    · rcases List.mem_cons.1 h with rfl | h
      · simp
      · exact ih h
    · next hc =>
      obtain ⟨first, segments, hs⟩ := List.exists_cons_of_ne_nil (splitOn_ne_nil sep cs)
      rw [hs] at h ih
      rcases List.mem_cons.1 h with rfl | h
      · rw [List.mem_cons, not_or]
        exact ⟨Ne.symm hc, ih List.mem_cons_self⟩
      · exact ih (List.mem_cons_of_mem _ h)

/-! ## Marks of two characters -/

variable {x y : Char}

/-- A mark does not reach over the start of a text that is not its second character. -/
theorem pair_infix_append_cons {z : Char} {a b : List Char} (hz : z ≠ y)
    (h : [x, y] <:+: a ++ z :: b) : [x, y] <:+: a ∨ [x, y] <:+: z :: b := by
  induction a with
  | nil => exact .inr h
  | cons c a ih =>
    rw [List.cons_append, List.infix_cons_iff] at h
    rcases h with h | h
    · cases a with
      | nil =>
        obtain ⟨rfl, hy⟩ := List.cons_prefix_cons.1 h
        exact absurd (List.cons_prefix_cons.1 hy).1.symm hz
      | cons d a =>
        obtain ⟨rfl, hy⟩ := List.cons_prefix_cons.1 h
        obtain ⟨rfl, -⟩ := List.cons_prefix_cons.1 hy
        exact .inl (List.IsPrefix.isInfix ⟨a, rfl⟩)
    · exact (ih h).imp_left fun hi => hi.trans (List.suffix_cons ..).isInfix

/-- A mark does not reach over a character that is neither of its two. -/
theorem pair_infix_append {a b : List Char} (hx : sep ≠ x) (hy : sep ≠ y) :
    [x, y] <:+: a ++ sep :: b ↔ [x, y] <:+: a ∨ [x, y] <:+: b := by
  constructor
  · intro h
    refine (pair_infix_append_cons hy h).imp_right fun hi => ?_
    exact (List.infix_cons_iff.1 hi).resolve_left (by simp [Ne.symm hx])
  · rintro (h | h)
    · exact h.trans (List.prefix_append ..).isInfix
    · exact h.trans ((List.suffix_cons ..).trans (List.suffix_append ..)).isInfix

/-- Two characters that are no separators stand next to each other in the segments put together
exactly if they do in one of the segments. -/
theorem pair_infix_join {segments : List (List Char)} (hx : sep ≠ x) (hy : sep ≠ y) :
    [x, y] <:+: join sep segments ↔ ∃ segment ∈ segments, [x, y] <:+: segment := by
  induction segments with
  | nil => simp [join]
  | cons segment segments ih =>
    cases segments with
    | nil => simp [join]
    | cons next segments =>
      rw [join_cons _ (by simp), pair_infix_append hx hy, ih]
      simp

/-- Two characters of which one is missing stand nowhere next to each other. -/
theorem not_pair_infix_of_not_mem {cs : List Char} (h : x ∉ cs ∨ y ∉ cs) : ¬ [x, y] <:+: cs :=
  fun hi => h.elim (· (hi.subset (by simp))) (· (hi.subset (by simp)))

end SchemaCanvas.Text
