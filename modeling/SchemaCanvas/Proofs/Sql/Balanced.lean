import SchemaCanvas.Proofs.Sql.Spelled

/-!
# Tokens with balanced parentheses

The elements of a table end at a comma or a parenthesis outside nested parentheses, so it is the
tokens outside them that decide where an element ends (`Outside`). An element goes up to the first
comma among these (`Statement.element_outside`), and the arguments of a type up to the parenthesis
that closes them (`Statement.arguments_closed`).
-/

namespace SchemaCanvas.Sql

open SchemaCanvas.Sql.Parser

/-- Whether a token is no parenthesis and no semicolon. -/
def Token.isFlat (t : Token) : Bool :=
  !t.isMark "(" && !t.isMark ")" && !t.isMark ";"

/-- The first list has balanced parentheses and no semicolon. The second one holds its tokens
outside parentheses, with the parenthesis that closes each outermost pair. -/
inductive Outside : List Token → List Token → Prop
  | nil : Outside [] []
  | token {t : Token} {ts outer : List Token} (ht : t.isFlat = true) (h : Outside ts outer) :
    Outside (t :: ts) (t :: outer)
  | group {inside hidden ts outer : List Token} (hi : Outside inside hidden)
    (h : Outside ts outer) :
    Outside (mark "(" :: (inside ++ mark ")" :: ts)) (mark ")" :: outer)

/-- A token that ends an element of a table. -/
def Token.Ends (t : Token) : Prop :=
  t.isMark "," = true ∨ t.isMark ")" = true

variable {t : Token} {ts outer rest : List Token}

/-- A token is flat exactly if it is none of the three marks. -/
theorem Token.isFlat_iff :
    t.isFlat = true ↔ t.isMark "(" = false ∧ t.isMark ")" = false ∧ t.isMark ";" = false := by
  simp [Token.isFlat, and_assoc]

/-- Every token that is no punctuation is flat. -/
theorem Token.isFlat_of_kind (h : t.kind ≠ .punctuation) : t.isFlat = true := by
  simp [isFlat, isMark_of_kind h]

/-- What ends an element is no other mark than a comma or a closing parenthesis. -/
theorem Token.Ends.isMark (h : t.Ends) {other : String} (hcomma : other ≠ ",")
    (hclose : other ≠ ")") : t.isMark other = false :=
  h.elim (fun h => Token.isMark_of_isMark h hcomma.symm)
    fun h => Token.isMark_of_isMark h hclose.symm

namespace Outside

/-- Tokens without parentheses and semicolons all are outside parentheses. -/
theorem of_flat (h : ∀ t ∈ ts, t.isFlat = true) : Outside ts ts := by
  induction ts with
  | nil => exact .nil
  | cons t ts ih =>
    obtain ⟨ht, hts⟩ := List.forall_mem_cons.1 h
    exact .token ht (ih hts)

/-- Balanced tokens put together are balanced, and so are those outside parentheses. -/
theorem append {us outer' : List Token} (h : Outside ts outer) (h' : Outside us outer') :
    Outside (ts ++ us) (outer ++ outer') := by
  induction h with
  | nil => exact h'
  | token ht h ih => exact .token ht ih
  | group hi h _ ih =>
    rw [List.cons_append, List.append_assoc]
    exact .group hi ih

/-- Balanced tokens have no comma outside parentheses, or they can be cut at the first one. -/
theorem cut (h : Outside ts outer) :
    (∀ t ∈ outer, t.isMark "," = false) ∨
      ∃ first firstOuter comma more moreOuter, comma.isMark "," = true ∧
        ts = first ++ comma :: more ∧ outer = firstOuter ++ comma :: moreOuter ∧
        Outside first firstOuter ∧ (∀ t ∈ firstOuter, t.isMark "," = false) ∧
        Outside more moreOuter := by
  induction h with
  | nil => exact .inl nofun
  | @token t ts outer ht h ih =>
    by_cases hcomma : t.isMark "," = true
    · exact .inr ⟨[], [], t, ts, outer, hcomma, rfl, rfl, .nil, nofun, h⟩
    rw [Bool.not_eq_true] at hcomma
    rcases ih with hnone | ⟨first, firstOuter, comma, more, moreOuter, hc, rfl, rfl, hf, hn, hm⟩
    · exact .inl (List.forall_mem_cons.2 ⟨hcomma, hnone⟩)
    · exact .inr ⟨t :: first, t :: firstOuter, comma, more, moreOuter, hc, rfl, rfl, .token ht hf,
        List.forall_mem_cons.2 ⟨hcomma, hn⟩, hm⟩
  | @group inside hidden ts outer hi h _ ih =>
    have hclose : (mark ")").isMark "," = false := by decide
    rcases ih with hnone | ⟨first, firstOuter, comma, more, moreOuter, hc, rfl, rfl, hf, hn, hm⟩
    · exact .inl (List.forall_mem_cons.2 ⟨hclose, hnone⟩)
    · refine .inr ⟨mark "(" :: (inside ++ mark ")" :: first), mark ")" :: firstOuter, comma, more,
        moreOuter, hc, by simp, rfl, .group hi hf, List.forall_mem_cons.2 ⟨hclose, hn⟩, hm⟩

end Outside

/-! ## Elements and arguments -/

namespace Statement

/-- A flat token leaves the parentheses as they are. -/
theorem depthAfter_of_flat (ht : t.isFlat = true) (depth : Nat) : depthAfter depth t = depth := by
  obtain ⟨hopen, hclose, -⟩ := Token.isFlat_iff.1 ht
  simp [depthAfter, hopen, hclose]

/-- Inside parentheses an element goes on, and nothing is kept of it. -/
theorem element_deep {depth : Nat} (ht : t.isMark ";" = false) (hd : depth ≠ 0)
    (hafter : depthAfter depth t ≠ 0) (ts : List Token) :
    element depth (t :: ts) = element (depthAfter depth t) ts := by
  rw [element_cons, if_neg (by simp [ht]), if_neg (by simp [hd])]
  simp only [if_neg hafter]
  cases h : element (depthAfter depth t) ts with
  | ok tokens left => rw [bind_of_ok h]; rfl
  | error cause left => rw [bind_of_error h]

/-- Inside a parenthesis an element passes over balanced tokens and keeps none of them. -/
theorem element_inside (h : Outside ts outer) (depth : Nat) (rest : List Token) :
    element (depth + 1) (ts ++ rest) = element (depth + 1) rest := by
  induction h generalizing depth rest with
  | nil => rfl
  | token ht h ih =>
    have hd := depthAfter_of_flat ht (depth + 1)
    have hs := (Token.isFlat_iff.1 ht).2.2
    rw [List.cons_append, element_deep hs (Nat.succ_ne_zero _) (by simp [hd]), hd, ih]
  | group hi h ihi ih =>
    have hopen : depthAfter (depth + 1) (mark "(") = depth + 1 + 1 := rfl
    have hclose : depthAfter (depth + 1 + 1) (mark ")") = depth + 1 := rfl
    rw [List.cons_append, List.append_assoc, List.cons_append,
      element_deep (by decide) (Nat.succ_ne_zero _) (by simp [hopen]), hopen, ihi,
      element_deep (by decide) (Nat.succ_ne_zero _) (by simp [hclose]), hclose, ih]

/-- An element goes up to the token that ends it when there is no comma outside parentheses before,
and the tokens outside parentheses are kept. -/
theorem element_outside (h : Outside ts outer) (hcomma : ∀ t ∈ outer, t.isMark "," = false)
    (ht : t.Ends) (rest : List Token) :
    element 0 (ts ++ t :: rest) = .ok outer (t :: rest) := by
  induction h with
  | nil =>
    have hs : t.isMark ";" = false := ht.isMark (by decide) (by decide)
    rw [List.nil_append, element_cons, if_neg (by simp [hs]), if_pos ⟨rfl, ht⟩]
  | @token u ts outer hu h ih =>
    obtain ⟨hopen, hclose, hs⟩ := Token.isFlat_iff.1 hu
    obtain ⟨huc, hcomma⟩ := List.forall_mem_cons.1 hcomma
    rw [List.cons_append, element_cons, if_neg (by simp [hs]), if_neg (by simp [huc, hclose]),
      depthAfter_of_flat hu, bind_of_ok (ih hcomma), if_pos rfl]
    rfl
  | @group inside hidden ts outer hi h _ ih =>
    have hcomma := (List.forall_mem_cons.1 hcomma).2
    have hclosed : element 1 (mark ")" :: (ts ++ t :: rest))
        = .ok (mark ")" :: outer) (t :: rest) := by
      rw [element_cons, if_neg (by decide), if_neg (by decide)]
      exact bind_of_ok (ih hcomma)
    rw [List.cons_append, List.append_assoc, List.cons_append, element_cons, if_neg (by decide),
      if_neg (by decide)]
    have hopen : depthAfter 0 (mark "(") = 0 + 1 := rfl
    rw [hopen]
    exact bind_of_ok ((element_inside hi 0 _).trans hclosed)

/-- Balanced tokens are taken over into the arguments of a type. -/
theorem arguments_inside (h : Outside ts outer) (depth : Nat) (rest : List Token) :
    arguments (depth + 1) (ts ++ rest)
      = (ts.map typeText ++ (arguments (depth + 1) rest).1, (arguments (depth + 1) rest).2) := by
  induction h generalizing depth rest with
  | nil => rfl
  | token ht h ih =>
    obtain ⟨-, hclose, -⟩ := Token.isFlat_iff.1 ht
    rw [List.cons_append, arguments, if_neg (by simp [hclose]), depthAfter_of_flat ht, ih]
    rfl
  | group hi h ihi ih =>
    have hopen : depthAfter (depth + 1) (mark "(") = depth + 1 + 1 := rfl
    have hclose : depthAfter (depth + 1 + 1) (mark ")") = depth + 1 := rfl
    rw [List.cons_append, List.append_assoc, List.cons_append, arguments,
      if_neg fun h => absurd h.1 (by decide), hopen,
      ihi, arguments, if_neg (by simp), hclose, ih]
    simp

/-- Arguments are the texts of balanced tokens up to the parenthesis that closes them. -/
theorem arguments_closed (h : Outside ts outer) (rest : List Token) :
    arguments 1 (ts ++ mark ")" :: rest) = (ts.map typeText ++ [")"], rest) :=
  arguments_inside h 0 (mark ")" :: rest)

end Statement

end SchemaCanvas.Sql
