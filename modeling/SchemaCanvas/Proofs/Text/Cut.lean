import SchemaCanvas.Text.Lines
import SchemaCanvas.Text.Quoted
import SchemaCanvas.Text.Search

/-!
# Cuts that do not depend on what follows

A run of characters of a kind ends before a text that does not go on with the kind
(`Text.takeWhile_run`, `Text.dropWhile_run`). So a text is cut at its first separator
(`Text.cutAt_append_cons`).

Cutting a text at the end of a run, at a mark or at a closing quote looks no further than the cut:
when the cut leaves all of a tail, another tail in its place is left in the same way
(`Text.dropWhile_tail`, `Text.findMark_tail`, `Text.closeQuote_tail`). The end of a run and a
closing quote are recognized by the character that follows, so there the first character of the tail
stays.
-/

namespace SchemaCanvas.Text

variable {α : Type}

section Run

variable {p : α → Bool} {run rest : List α}

/-- What is taken off the front is the run that stands there. -/
theorem takeWhile_run (hrun : ∀ c ∈ run, p c = true) (hrest : ∀ c ∈ rest.head?, p c = false) :
    (run ++ rest).takeWhile p = run := by
  rw [List.takeWhile_append_of_pos hrun]
  cases rest with
  | nil => exact List.append_nil run
  | cons d rest =>
    have hd : ¬ p d = true := by simp [hrest d rfl]
    rw [List.takeWhile_cons_of_neg hd, List.append_nil]

/-- What is left is what follows the run. -/
theorem dropWhile_run (hrun : ∀ c ∈ run, p c = true) (hrest : ∀ c ∈ rest.head?, p c = false) :
    (run ++ rest).dropWhile p = rest := by
  rw [List.dropWhile_append_of_pos hrun]
  cases rest with
  | nil => rfl
  | cons d rest =>
    have hd : ¬ p d = true := by simp [hrest d rfl]
    rw [List.dropWhile_cons_of_neg hd]

end Run

/-- A text is cut at its first separator. -/
theorem cutAt_append_cons {sep : Char} {cs : List Char} (h : sep ∉ cs) (ds : List Char) :
    cutAt sep (cs ++ sep :: ds) = (cs, ds) := by
  have hrun : ∀ c ∈ cs, decide (c ≠ sep) = true := fun c hc => decide_eq_true fun e => h (e ▸ hc)
  have hrest : ∀ c ∈ (sep :: ds).head?, decide (c ≠ sep) = false := by simp
  rw [cutAt, takeWhile_run hrun hrest, dropWhile_run hrun hrest, List.drop_one, List.tail_cons]

/-- The two parts of a text with the separator in it make up the text. -/
theorem cutAt_append {sep : Char} {cs : List Char} (h : sep ∈ cs) :
    (cutAt sep cs).1 ++ sep :: (cutAt sep cs).2 = cs := by
  obtain ⟨before, after, rfl, hbefore⟩ := List.eq_append_cons_of_mem h
  rw [cutAt_append_cons hbefore]

/-- A run that ends before a tail ends there before every tail with the same first member. -/
theorem dropWhile_tail {p : α → Bool} {u v w : List α} {d : α}
    (h : (u ++ d :: w).dropWhile p = v ++ d :: w) (w' : List α) :
    (u ++ d :: w').dropWhile p = v ++ d :: w' ∧
      (u ++ d :: w').takeWhile p = (u ++ d :: w).takeWhile p := by
  induction u with
  | nil =>
    by_cases hp : p d = true
    · have hl := (List.dropWhile_suffix (l := w) p).length_le
      rw [List.nil_append, List.dropWhile_cons_of_pos hp] at h
      have := congrArg List.length h
      simp only [List.length_append, List.length_cons] at this
      omega
    · rw [List.nil_append, List.dropWhile_cons_of_neg hp] at h
      obtain rfl : [] = v := List.append_cancel_right h
      simp [hp]
  | cons c u ih =>
    by_cases hp : p c = true
    · rw [List.cons_append, List.dropWhile_cons_of_pos hp] at h
      obtain ⟨hd, ht⟩ := ih h
      simp [hp, hd, ht]
    · rw [List.cons_append, List.dropWhile_cons_of_neg hp, ← List.cons_append] at h
      rw [← List.append_cancel_right h]
      simp [hp]

/-- A text is cut at a mark where the mark is first complete: the mark is in no text that ends
sooner. What follows the mark plays no part. -/
theorem findMark_eq_some_iff {mark cs inside rest : List Char} (hm : mark ≠ []) :
    findMark mark cs = some (inside, rest) ↔
      cs = inside ++ mark ++ rest ∧ ¬ mark <:+: inside ++ mark.dropLast := by
  have hlen := List.length_pos_iff.2 hm
  have hpartial : ∀ before : List Char, before ++ mark.dropLast <+: before ++ mark ++ rest := by
    intro before
    rw [List.append_assoc, List.prefix_append_right_inj]
    exact (List.dropLast_prefix mark).trans (List.prefix_append ..)
  induction cs generalizing inside with
  | nil => simp [findMark, hm]
  | cons c cs ih =>
    rw [findMark]
    by_cases hp : mark <+: c :: cs
    · rw [if_pos (List.isPrefixOf_iff_prefix.2 hp)]
      obtain ⟨tail, ht⟩ := hp
      constructor
      · intro h
        simp only [Option.some.injEq, Prod.mk.injEq] at h
        obtain ⟨rfl, rfl⟩ := h
        refine ⟨by simp [← ht], fun hi => ?_⟩
        have := hi.length_le
        simp only [List.nil_append, List.length_dropLast] at this
        omega
      · rintro ⟨he, hn⟩
        have hin : inside = [] := by
          refine Classical.byContradiction fun hne => ?_
          have hpos := List.length_pos_iff.2 hne
          have hprefix : inside ++ mark.dropLast <+: c :: cs := he ▸ hpartial inside
          refine hn (List.prefix_of_prefix_length_le ⟨tail, ht⟩ hprefix ?_).isInfix
          simp only [List.length_append, List.length_dropLast]
          omega
        subst hin
        simp [he]
    · rw [if_neg fun h => hp (List.isPrefixOf_iff_prefix.1 h)]
      simp only [Option.map_eq_some_iff, Prod.exists, Prod.mk.injEq]
      constructor
      · rintro ⟨a, b, h, rfl, rfl⟩
        obtain ⟨rfl, hn⟩ := ih.1 h
        refine ⟨by simp, fun hi => ?_⟩
        rw [List.cons_append] at hi
        rcases List.infix_cons_iff.1 hi with hpre | hi
        · exact hp (hpre.trans (List.prefix_cons_inj c |>.2 (hpartial a)))
        · exact hn hi
      · rintro ⟨he, hn⟩
        cases inside with
        | nil => exact absurd ⟨rest, he.symm⟩ hp
        | cons d inside =>
          simp only [List.cons_append, List.cons.injEq] at he
          obtain ⟨rfl, rfl⟩ := he
          refine ⟨inside, rest, ih.2 ⟨by simp, fun hi => hn ?_⟩, rfl, rfl⟩
          exact hi.trans (List.suffix_cons ..).isInfix

/-- A mark that is found before a tail is found there before every tail. -/
theorem findMark_tail {mark u v w inside : List Char} (hm : mark ≠ [])
    (h : findMark mark (u ++ w) = some (inside, v ++ w)) (w' : List Char) :
    findMark mark (u ++ w') = some (inside, v ++ w') := by
  rw [findMark_eq_some_iff hm] at h ⊢
  obtain ⟨he, hn⟩ := h
  rw [← List.append_assoc] at he
  exact ⟨by rw [List.append_cancel_right he, List.append_assoc], hn⟩

/-- A mark is not found inside a piece that its first character does not occur in. -/
theorem findMark_append_of_not_mem {m : Char} {ms piece : List Char} (h : m ∉ piece)
    (cs : List Char) :
    findMark (m :: ms) (piece ++ cs)
      = (findMark (m :: ms) cs).map fun cut => (piece ++ cut.1, cut.2) := by
  induction piece with
  | nil => simp
  | cons c piece ih =>
    rw [List.mem_cons, not_or] at h
    obtain ⟨hc, hp⟩ := h
    have hpre : ¬ (m :: ms).isPrefixOf (c :: (piece ++ cs)) = true := fun hpre =>
      hc (List.cons_prefix_cons.1 (List.isPrefixOf_iff_prefix.1 hpre)).1
    rw [List.cons_append, findMark, if_neg hpre, ih hp, Option.map_map]
    rfl

/-- A closing quote that is found before a tail is found there before every tail with the same first
character: a quote is no closing one when another quote follows. -/
theorem closeQuote_tail {q d : Char} {u v w inside : List Char}
    (h : closeQuote q (u ++ d :: w) = some (inside, v ++ d :: w)) (w' : List Char) :
    closeQuote q (u ++ d :: w') = some (inside, v ++ d :: w') := by
  rw [closeQuote_eq_some_iff] at h ⊢
  obtain ⟨hcs, hinside, hrest⟩ := h
  have hu : u = inside ++ q :: v := by
    rw [← List.cons_append, ← List.append_assoc] at hcs
    exact List.append_cancel_right hcs
  have hhead : (v ++ d :: w').head? = (v ++ d :: w).head? := by
    cases v <;> rfl
  exact ⟨by rw [hu, List.append_assoc, List.cons_append], hinside, hhead ▸ hrest⟩

end SchemaCanvas.Text
