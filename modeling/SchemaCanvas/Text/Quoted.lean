/-!
# Quoted text

Inside quotes a quote is written twice. `Text.double` writes a text that way and `Text.collapse`
undoes it (`Text.collapse_double`). `Text.closeQuote` finds where quoted text ends: at the first
quote that is not one of a pair (`Text.closeQuote_eq_some_iff`).
-/

namespace SchemaCanvas.Text

/-- The text with every `q` written twice. -/
def double (q : Char) : List Char → List Char
  | [] => []
  | c :: cs => if c = q then q :: q :: double q cs else c :: double q cs

/-- The text with every pair of `q`, taken from the left, written once. -/
def collapse (q : Char) : List Char → List Char
  | [] => []
  | [c] => [c]
  | c :: d :: cs => if c = q ∧ d = q then q :: collapse q cs else c :: collapse q (d :: cs)

/-- Cuts what follows an opening quote at the closing one: the inside, with its quotes still written
twice, and what follows the closing quote. There is no answer when the quote is never closed. -/
def closeQuote (q : Char) : List Char → Option (List Char × List Char)
  | [] => none
  | [c] => if c = q then some ([], []) else none
  | c :: d :: cs =>
    if c = q then
      if d = q then (closeQuote q cs).map fun cut => (q :: q :: cut.1, cut.2)
      else some ([], d :: cs)
    else (closeQuote q (d :: cs)).map fun cut => (c :: cut.1, cut.2)

/-- The text between quotes `q`, with its own quotes written twice. -/
def quote (q : Char) (cs : List Char) : List Char :=
  q :: double q cs ++ [q]

/-- A character that is no quote is kept. -/
theorem collapse_cons_of_ne {q c : Char} (h : c ≠ q) (cs : List Char) :
    collapse q (c :: cs) = c :: collapse q cs := by
  cases cs with
  | nil => rfl
  | cons d cs => simp [collapse, h]

/-- Making doubled quotes single undoes the doubling. -/
theorem collapse_double (q : Char) (cs : List Char) : collapse q (double q cs) = cs := by
  induction cs with
  | nil => rfl
  | cons c cs ih =>
    by_cases h : c = q
    · simp [double, h, collapse, ih]
    · simp [double, h, collapse_cons_of_ne h, ih]

/-- Whether the quotes of a text come in pairs, taken from the left. -/
inductive Paired (q : Char) : List Char → Prop
  | nil : Paired q []
  | pair {cs : List Char} (h : Paired q cs) : Paired q (q :: q :: cs)
  | other {c : Char} {cs : List Char} (hc : c ≠ q) (h : Paired q cs) : Paired q (c :: cs)

/-- In a text with its quotes doubled all quotes are paired. -/
theorem paired_double (q : Char) (cs : List Char) : Paired q (double q cs) := by
  induction cs with
  | nil => exact .nil
  | cons c cs ih =>
    rw [double]
    split
    · exact .pair ih
    · next hc => exact .other hc ih

/-- A character that is no quote belongs to the quoted text. -/
theorem closeQuote_cons_of_ne {q c : Char} (h : c ≠ q) (cs : List Char) :
    closeQuote q (c :: cs) = (closeQuote q cs).map fun cut => (c :: cut.1, cut.2) := by
  cases cs with
  | nil => simp [closeQuote, h]
  | cons d cs => rw [closeQuote, if_neg h]

/-- The closing quote is the first one that is not one of a pair. -/
theorem closeQuote_eq_some_iff {q : Char} {cs inside rest : List Char} :
    closeQuote q cs = some (inside, rest) ↔
      cs = inside ++ q :: rest ∧ Paired q inside ∧ rest.head? ≠ some q := by
  constructor
  · intro h
    fun_induction closeQuote q cs generalizing inside rest with
    | case1 => cases h
    | case2 =>
      cases h
      exact ⟨rfl, .nil, nofun⟩
    | case3 => cases h
    | case4 cs ih =>
      obtain ⟨cut, hcut, hpair⟩ := Option.map_eq_some_iff.1 h
      obtain ⟨rfl, rfl⟩ := Prod.mk.inj hpair
      obtain ⟨rfl, hinside, hrest⟩ := ih hcut
      exact ⟨rfl, .pair hinside, hrest⟩
    | case5 d cs hd =>
      cases h
      exact ⟨rfl, .nil, fun hhead => hd (Option.some.inj hhead)⟩
    | case6 c d cs hc ih =>
      obtain ⟨cut, hcut, hpair⟩ := Option.map_eq_some_iff.1 h
      obtain ⟨rfl, rfl⟩ := Prod.mk.inj hpair
      obtain ⟨hcs, hinside, hrest⟩ := ih hcut
      exact ⟨by rw [hcs, List.cons_append], .other hc hinside, hrest⟩
  · rintro ⟨rfl, hinside, hrest⟩
    induction hinside with
    | nil =>
      cases rest with
      | nil => simp [closeQuote]
      | cons d rest => simp [closeQuote, show d ≠ q by simpa using hrest]
    | pair _ ih => simp [closeQuote, ih]
    | other hc _ ih => rw [List.cons_append, closeQuote_cons_of_ne hc, ih, Option.map_some]

/-- A closing quote is found behind the inside, however the inside came to be written, as long as
no third quote follows. -/
theorem closeQuote_double (q : Char) (cs rest : List Char) (h : rest.head? ≠ some q) :
    closeQuote q (double q cs ++ q :: rest) = some (double q cs, rest) :=
  closeQuote_eq_some_iff.2 ⟨rfl, paired_double q cs, h⟩

/-- Nothing is lost: the inside, the closing quote and the rest make up the text. -/
theorem closeQuote_eq_some {q : Char} {cs inside rest : List Char}
    (h : closeQuote q cs = some (inside, rest)) : cs = inside ++ q :: rest :=
  (closeQuote_eq_some_iff.1 h).1

end SchemaCanvas.Text
