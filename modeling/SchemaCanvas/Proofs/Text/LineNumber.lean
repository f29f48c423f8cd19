import SchemaCanvas.Proofs.Text.Segments

/-!
# Line numbers

The lines of a text are numbered from one. The last line of a text goes on as the first line of what
follows it, and no other line changes (`Text.splitOn_append`). So the number of a line that stands
behind a text is one more than the number of line feeds of that text (`Text.startsOn_lineFeeds`),
and a line of a part of a text is a piece of the line of the text that is as far behind
(`Text.exists_segment`).
-/

namespace SchemaCanvas.Text

variable {sep : Char} {a b c : List Char} {i : Nat} {segment : List Char}

/-- The line with the number `n`. -/
def line? (cs : List Char) : (n : Nat) → Option (List Char)
  | 0 => none
  | i + 1 => (lines cs)[i]?

/-- Whether what stands behind `before` starts on the line with the number `n`: the lines with
smaller numbers and the beginning of this line make up the text before. -/
def StartsOn (before rest : List Char) (n : Nat) : Prop :=
  ∃ earlier start line later, lines (before ++ rest) = earlier ++ line :: later ∧
    before = join '\n' (earlier ++ [start]) ∧ start <+: line ∧ n = earlier.length + 1

/-! ## Segments of a text in two parts -/

/-- There is one more segment than there are separators. -/
theorem length_splitOn (sep : Char) (cs : List Char) :
    (splitOn sep cs).length = cs.count sep + 1 := by
  induction cs with
  | nil => rfl
  | cons c cs ih =>
    rw [splitOn]
    by_cases hc : c = sep
    · rw [if_pos hc, List.length_cons, ih, hc, List.count_cons_self]
    · obtain ⟨segment, segments, hs⟩ := List.exists_cons_of_ne_nil (splitOn_ne_nil sep cs)
      rw [if_neg hc, List.count_cons_of_ne hc, ← ih, hs, List.length_cons, List.length_cons]

/-- A text may be joined to the first segment of another one. -/
theorem join_append_segment (earlier : List (List Char)) (start rest : List Char)
    (later : List (List Char)) :
    join sep (earlier ++ (start ++ rest) :: later)
      = join sep (earlier ++ [start]) ++ join sep (rest :: later) := by
  have hfirst : join sep ((start ++ rest) :: later) = start ++ join sep (rest :: later) := by
    cases later with
    | nil => rfl
    | cons next later =>
      have hnext : next :: later ≠ [] := List.cons_ne_nil next later
      rw [join_cons _ hnext, join_cons _ hnext, List.append_assoc]
  by_cases hearlier : earlier = []
  · rw [hearlier, List.nil_append, List.nil_append, hfirst]
    rfl
  · rw [join_append hearlier (by simp), join_append hearlier (by simp), hfirst, List.append_assoc]
    rfl

/-- The last segment of a text and the first one of what follows are one segment of both together,
and the other segments stay. -/
theorem splitOn_append {earlier later : List (List Char)} {start rest : List Char}
    (ha : splitOn sep a = earlier ++ [start]) (hb : splitOn sep b = rest :: later) :
    splitOn sep (a ++ b) = earlier ++ (start ++ rest) :: later := by
  have hmem : ∀ segment ∈ earlier ++ (start ++ rest) :: later, sep ∉ segment := by
    have hstart : sep ∉ start :=
      not_mem_of_mem_splitOn (ha ▸ List.mem_append_right earlier List.mem_cons_self)
    have hrest : sep ∉ rest := not_mem_of_mem_splitOn (hb ▸ List.mem_cons_self)
    intro segment hsegment
    rcases List.mem_append.1 hsegment with hearlier | hsegment
    · exact not_mem_of_mem_splitOn (ha ▸ List.mem_append_left _ hearlier)
    rcases List.mem_cons.1 hsegment with rfl | hlater
    · exact fun hc => (List.mem_append.1 hc).elim hstart hrest
    · exact not_mem_of_mem_splitOn (hb ▸ List.mem_cons_of_mem _ hlater)
  rw [← splitOn_join (by simp) hmem, join_append_segment, ← ha, ← hb, join_splitOn, join_splitOn]

/-- The last segment has as many segments before it as there are separators. -/
theorem exists_splitOn_concat (sep : Char) (cs : List Char) :
    ∃ earlier start, splitOn sep cs = earlier ++ [start] ∧ earlier.length = cs.count sep := by
  obtain ⟨earlier, start, hs⟩ :=
    (List.eq_nil_or_concat (splitOn sep cs)).resolve_left (splitOn_ne_nil sep cs)
  rw [List.concat_eq_append] at hs
  refine ⟨earlier, start, hs, ?_⟩
  have hlength := length_splitOn sep cs
  rw [hs, List.length_append, List.length_singleton] at hlength
  exact Nat.succ.inj hlength

/-- A segment of a text is one of the text with more behind it, if it is not the last one; the last
one begins the segment in its place. -/
theorem exists_segment_append (h : (splitOn sep b)[i]? = some segment) (c : List Char) :
    ∃ whole, (splitOn sep (b ++ c))[i]? = some whole ∧ segment <+: whole ∧
      (i + 1 ≠ (splitOn sep b).length → segment = whole) := by
  obtain ⟨earlier, start, hb, -⟩ := exists_splitOn_concat sep b
  obtain ⟨rest, later, hc⟩ := List.exists_cons_of_ne_nil (splitOn_ne_nil sep c)
  rw [splitOn_append hb hc]
  rw [hb] at h ⊢
  by_cases hi : i < earlier.length
  · rw [List.getElem?_append_left hi] at h ⊢
    exact ⟨segment, h, List.prefix_refl _, fun _ => rfl⟩
  · have hlast : i = earlier.length := by
      have hbound := (List.getElem?_eq_some_iff.1 h).1
      rw [List.length_append, List.length_singleton] at hbound
      omega
    subst hlast
    obtain rfl : start = segment := by simpa using h
    exact ⟨start ++ rest, by simp, List.prefix_append _ _, fun hne => absurd (by simp) hne⟩

/-- A segment of a text is one of the text with more before it, as many places further on as there
are separators before, if it is not the first one; the first one ends the segment in its place. -/
theorem exists_append_segment (h : (splitOn sep b)[i]? = some segment) (a : List Char) :
    ∃ whole, (splitOn sep (a ++ b))[a.count sep + i]? = some whole ∧ segment <:+ whole ∧
      (i ≠ 0 → segment = whole) := by
  obtain ⟨earlier, start, ha, hlength⟩ := exists_splitOn_concat sep a
  obtain ⟨rest, later, hb⟩ := List.exists_cons_of_ne_nil (splitOn_ne_nil sep b)
  rw [splitOn_append ha hb, ← hlength, List.getElem?_append_right (Nat.le_add_right _ _),
    Nat.add_sub_cancel_left]
  rw [hb] at h
  cases i with
  | zero =>
    obtain rfl : rest = segment := Option.some.inj h
    exact ⟨start ++ rest, rfl, List.suffix_append _ _, fun hne => absurd rfl hne⟩
  | succ i => exact ⟨segment, h, List.suffix_refl _, fun _ => rfl⟩

/-- A segment of a part of a text is a piece of the segment of the text that is as many places
further on as there are separators before the part. It is the whole segment when it is neither the
first nor the last one of the part. -/
theorem exists_segment (h : (splitOn sep b)[i]? = some segment) (a c : List Char) :
    ∃ whole, (splitOn sep (a ++ b ++ c))[a.count sep + i]? = some whole ∧ segment <:+: whole ∧
      (i ≠ 0 → i + 1 ≠ (splitOn sep b).length → segment = whole) := by
  obtain ⟨middle, hmiddle, hstart, hinner⟩ := exists_segment_append h c
  obtain ⟨whole, hwhole, hend, houter⟩ := exists_append_segment hmiddle a
  rw [List.append_assoc]
  exact ⟨whole, hwhole, hstart.isInfix.trans hend.isInfix,
    fun hfirst hlast => (hinner hlast).trans (houter hfirst)⟩

/-- The number of a line is one more than the number of line feeds before it. -/
theorem startsOn_lineFeeds (before rest : List Char) :
    StartsOn before rest (lineFeeds before + 1) := by
  obtain ⟨earlier, start, hbefore, hlength⟩ := exists_splitOn_concat '\n' before
  obtain ⟨first, later, hrest⟩ := List.exists_cons_of_ne_nil (splitOn_ne_nil '\n' rest)
  refine ⟨earlier, start, start ++ first, later, splitOn_append hbefore hrest, ?_,
    List.prefix_append _ _, by rw [hlength, lineFeeds]⟩
  rw [← hbefore, join_splitOn]

end SchemaCanvas.Text
