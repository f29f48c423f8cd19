/-!
# Finding a mark in a text

`Text.findMark` cuts a text at the first occurrence of a mark. Both parts and the mark make up the
text (`Text.findMark_eq_some`), and no text without the mark is cut (`Text.findMark_eq_none`).
-/

namespace SchemaCanvas.Text

/-- What stands before the first occurrence of `mark` and what stands after it. -/
def findMark (mark : List Char) : List Char → Option (List Char × List Char)
  | [] => none
  | c :: cs =>
    if mark.isPrefixOf (c :: cs) then some ([], (c :: cs).drop mark.length)
    else (findMark mark cs).map fun cut => (c :: cut.1, cut.2)

/-- What stands before the first occurrence of a mark, the mark and what follows are the text. -/
theorem findMark_eq_some {mark cs before after : List Char}
    (h : findMark mark cs = some (before, after)) : cs = before ++ mark ++ after := by
  induction cs generalizing before after with
  | nil => simp [findMark] at h
  | cons c cs ih =>
    rw [findMark] at h
    split at h
    · next hp =>
      obtain ⟨rest, hrest⟩ := List.isPrefixOf_iff_prefix.1 hp
      simp only [Option.some.injEq, Prod.mk.injEq] at h
      simp [← h.1, ← h.2, ← hrest]
    · obtain ⟨cut, hcut, hpair⟩ := Option.map_eq_some_iff.1 h
      simp only [Prod.mk.injEq] at hpair
      simp [← hpair.1, ← hpair.2, ih hcut]

/-- A mark is not found exactly if it stands nowhere in the text. -/
theorem findMark_eq_none {mark cs : List Char} (hm : mark ≠ []) :
    findMark mark cs = none ↔ ¬ mark <:+: cs := by
  induction cs with
  | nil => simp [findMark, hm]
  | cons c cs ih =>
    rw [findMark, List.infix_cons_iff]
    split
    · next hp => simp [List.isPrefixOf_iff_prefix.1 hp]
    · next hp =>
      have hp : ¬ mark <+: c :: cs := fun h => hp (List.isPrefixOf_iff_prefix.2 h)
      simp [hp, ih]

end SchemaCanvas.Text
