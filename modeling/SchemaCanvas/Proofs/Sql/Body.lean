import SchemaCanvas.Proofs.Sql.Confined
import SchemaCanvas.Proofs.Sql.Modifier

/-!
# Bodies of column definitions

The body of a table is read in pieces, which end at the commas outside parentheses. A piece that is
empty or starts with a word of table constraints is passed over, and any other piece is a column or
a failure (`Statement.tableBody_pieces`). So a list of column definitions is read column by column
when the further pieces of each definition are passed over, and else not at all or with more columns
than are defined (`Statement.tableBody_definitions`).
-/

namespace SchemaCanvas.Sql.Statement

open SchemaCanvas.Sql.Parser

variable {table : String} {t : Token} {ts outer : List Token} {x y z : Parser.Answer (List Column)}

/-! ## Columns before others -/

/-- The answer with columns put before the ones in it. -/
def before (cs : List Column) : Parser.Answer (List Column) → Parser.Answer (List Column)
  | .ok more rest => .ok (cs ++ more) rest
  | .error cause rest => .error cause rest

/-- A failure, or the other answer with more than `n` columns before. -/
def Exceeds (n : Nat) (x y : Parser.Answer (List Column)) : Prop :=
  Fails x ∨ ∃ cs : List Column, n < cs.length ∧ x = before cs y

/-- Columns put before columns are put before together. -/
theorem before_before (cs ds : List Column) (x : Parser.Answer (List Column)) :
    before cs (before ds x) = before (cs ++ ds) x := by
  cases x with
  | ok more rest => simp [before]
  | error cause rest => rfl

/-- A column that has been read is put before those of the rest of the body. -/
theorem tableBody_cons_column (c : Column) (ts : List Token) :
    (tableBody table >>= fun cs => Pure.pure (c :: cs)) ts = before [c] (tableBody table ts) := by
  cases h : tableBody table ts with
  | ok cs rest => rw [bind_of_ok h]; rfl
  | error cause rest => rw [bind_of_error h]; rfl

/-- A failure has no columns to put others before. -/
theorem Fails.before (h : Fails x) (cs : List Column) : Fails (before cs x) := by
  obtain ⟨cause, left, rfl⟩ := h
  exact ⟨cause, left, rfl⟩

/-- The columns by which answers exceed each other add up. -/
theorem Exceeds.trans {m n : Nat} (h : Exceeds m x y) (h' : Exceeds n y z) :
    Exceeds (m + n) x z := by
  rcases h with hfails | ⟨cs, hlength, rfl⟩
  · exact .inl hfails
  rcases h' with hfails | ⟨ds, hlength', rfl⟩
  · exact .inl (hfails.before cs)
  · refine .inr ⟨cs ++ ds, ?_, before_before cs ds z⟩
    rw [List.length_append]
    omega

/-- Putting columns before an answer makes it exceed by as many more. -/
theorem Exceeds.before {n : Nat} (h : Exceeds n x y) (cs : List Column) :
    Exceeds (cs.length + n) (before cs x) y := by
  rcases h with hfails | ⟨ds, hlength, rfl⟩
  · exact .inl (hfails.before cs)
  · refine .inr ⟨cs ++ ds, ?_, before_before cs ds y⟩
    rw [List.length_append]
    omega

/-- An answer that exceeds one with columns before it exceeds the one without them by as many
more. -/
theorem Exceeds.of_before {n : Nat} {cs : List Column} (h : Exceeds n x (Statement.before cs y)) :
    Exceeds (n + cs.length) x y := by
  rcases h with hfails | ⟨ds, hlength, rfl⟩
  · exact .inl hfails
  · refine .inr ⟨ds ++ cs, ?_, before_before ds cs y⟩
    rw [List.length_append]
    omega

/-! ## Pieces -/

/-- The first piece ends at the first comma. -/
theorem splitOnP_comma {comma : Token} (hc : comma.isMark "," = true)
    (hnone : ∀ t ∈ ts, t.isMark "," = false) (us : List Token) :
    (ts ++ comma :: us).splitOnP (·.isMark ",") = ts :: us.splitOnP (·.isMark ",") := by
  rw [@List.splitOnP_append_cons Token (·.isMark ",") ts us comma hc,
    List.splitOnP_eq_singleton hnone, List.singleton_append]

/-- A comma in the body of a table is passed over. -/
theorem tableBody_comma (h : t.isMark "," = true) (ts : List Token) :
    tableBody table (t :: ts) = tableBody table ts := by
  have hclose : t.isMark ")" = false := Token.isMark_of_isMark h (by decide)
  rw [tableBody_cons, if_neg (by simp [hclose]), if_pos h]

/-- A piece that starts with a word of table constraints is passed over. -/
theorem tableBody_skipped (h : Outside ts outer) (hcomma : ∀ t ∈ outer, t.isMark "," = false)
    (hs : skipped outer = true) (ht : t.Ends) (rest : List Token) :
    tableBody table (ts ++ t :: rest) = tableBody table (t :: rest) := by
  cases h with
  | nil => rfl
  | @token u ts outer hu h =>
    obtain ⟨-, hclose, -⟩ := Token.isFlat_iff.1 hu
    obtain ⟨huc, hcomma⟩ := List.forall_mem_cons.1 hcomma
    have hword : u.isKeywordOf tableConstraintWords = true := hs
    rw [List.cons_append, tableBody_cons, if_neg (by simp [hclose]), if_neg (by simp [huc]),
      if_pos hword, bind_of_ok (element_outside h hcomma ht rest)]
  | group hi h => cases hs

/-- Every other piece is read as a column, or the body cannot be read. -/
theorem tableBody_unskipped (table : String) (h : Outside ts outer)
    (hcomma : ∀ t ∈ outer, t.isMark "," = false)
    (hs : skipped outer = false) (ht : t.Ends) (rest : List Token) :
    Exceeds 0 (tableBody table (ts ++ t :: rest)) (tableBody table (t :: rest)) := by
  have hpiece : Piece ts := ⟨outer, h, hcomma⟩
  have hfirst : ∃ u us, ts = u :: us ∧ u.isMark ")" = false ∧ u.isMark "," = false ∧
      u.isKeywordOf tableConstraintWords = false := by
    cases h with
    | nil => cases hs
    | token hu h =>
      exact ⟨_, _, rfl, (Token.isFlat_iff.1 hu).2.1, (List.forall_mem_cons.1 hcomma).1, hs⟩
    | group hi h => exact ⟨_, _, rfl, by decide, by decide, by decide⟩
  obtain ⟨u, us, rfl, hclose, huc, hword⟩ := hfirst
  have hcolumn := column_of_piece hpiece ht rest
  rw [List.cons_append] at hcolumn ⊢
  rw [tableBody_cons, if_neg (by simp [hclose]), if_neg (by simp [huc]), if_neg (by simp [hword])]
  rcases hcolumn with ⟨cause, left, hfails⟩ | ⟨c, hok⟩
  · exact .inl ⟨cause, left, bind_of_error hfails⟩
  · rw [bind_of_ok hok, tableBody_cons_column]
    exact .inr ⟨[c], Nat.one_pos, rfl⟩

/-- Balanced tokens in the body of a table add nothing when all their pieces are passed over, and
else they add columns, or the body cannot be read. -/
theorem tableBody_pieces (table : String) (h : Outside ts outer) (ht : t.Ends) (rest : List Token) :
    ((∀ piece ∈ outer.splitOnP (·.isMark ","), skipped piece = true) ∧
      tableBody table (ts ++ t :: rest) = tableBody table (t :: rest)) ∨
    ((∃ piece ∈ outer.splitOnP (·.isMark ","), skipped piece = false) ∧
      Exceeds 0 (tableBody table (ts ++ t :: rest)) (tableBody table (t :: rest))) := by
  -- Cut at the first comma: the tokens after it are balanced again, and fewer.
  induction hn : ts.length using Nat.strongRecOn generalizing ts outer with
  | ind n ih =>
    rcases h.cut with
      hnone | ⟨first, firstOuter, comma, more, moreOuter, hc, rfl, rfl, hf, hnone, hm⟩
    · rw [List.splitOnP_eq_singleton hnone]
      cases hs : skipped outer with
      | true => exact .inl ⟨by simp [hs], tableBody_skipped h hnone hs ht rest⟩
      | false => exact .inr ⟨⟨outer, by simp, hs⟩, tableBody_unskipped table h hnone hs ht rest⟩
    have hmore : tableBody table (comma :: (more ++ t :: rest))
        = tableBody table (more ++ t :: rest) := tableBody_comma hc _
    have hshorter : more.length < n := by
      rw [← hn, List.length_append, List.length_cons]
      omega
    rw [splitOnP_comma hc hnone, List.append_assoc, List.cons_append]
    cases hs : skipped firstOuter with
    | true =>
      rw [tableBody_skipped hf hnone hs (.inl hc), hmore]
      rcases ih _ hshorter hm rfl with ⟨hall, heq⟩ | ⟨⟨piece, hpiece, hfalse⟩, hexceeds⟩
      · exact .inl ⟨List.forall_mem_cons.2 ⟨hs, hall⟩, heq⟩
      · exact .inr ⟨⟨piece, List.mem_cons_of_mem _ hpiece, hfalse⟩, hexceeds⟩
    | false =>
      have hfirst := tableBody_unskipped table hf hnone hs (.inl hc) (more ++ t :: rest)
      rw [hmore] at hfirst
      refine .inr ⟨⟨firstOuter, List.mem_cons_self, hs⟩, ?_⟩
      rcases ih _ hshorter hm rfl with ⟨-, heq⟩ | ⟨-, hexceeds⟩
      · rwa [heq] at hfirst
      · exact hfirst.trans hexceeds

/-! ## Column definitions -/

/-- A type does not go on with the first word of a modifier. -/
theorem exists_tokens_tree (m : Modifier) :
    ∃ word more, m.tree.tokens = bareWord word :: more ∧
      (bareWord word).isKeywordOf typeContinuationWords = false := by
  cases m <;> exact ⟨_, _, rfl, by decide⟩

/-- The type of a column ends where its modifiers start, or with the column. -/
theorem endsType_modifiers (ms : List Modifier) (ht : t.Ends) (rest : List Token) :
    EndsType ((ms.flatMap fun m => m.tree.tokens) ++ t :: rest) := by
  cases ms with
  | nil =>
    have hmark : ∀ other, other ≠ "," → other ≠ ")" → t.isMark other = false :=
      fun other => ht.isMark
    have hword : t.isKeywordOf typeContinuationWords = false :=
      Bool.eq_false_iff.2 fun hw => ht.elim
        (fun h => absurd (Token.isMark_of_isKeywordOf hw ",") (by simp [h]))
        fun h => absurd (Token.isMark_of_isKeywordOf hw ")") (by simp [h])
    exact endsType_cons ⟨hmark "." (by decide) (by decide), hmark "(" (by decide) (by decide),
      hmark "[" (by decide) (by decide), hword⟩ rest
  | cons m ms =>
    obtain ⟨word, more, hm, hword⟩ := exists_tokens_tree m
    rw [List.flatMap_cons, hm]
    exact endsType_cons ⟨rfl, rfl, rfl, hword⟩ _

/-- A quoted name, a word and a piece after them are a column, which the tokens of the piece tell
of. -/
theorem tableBody_first (c : ColumnDefinition) (h : Outside ts outer)
    (hcomma : ∀ t ∈ outer, t.isMark "," = false) (ht : t.Ends) {rest : List Token}
    (hends : EndsType (ts ++ t :: rest)) :
    tableBody table (quotedName c.name :: bareWord c.type :: (ts ++ t :: rest))
      = before [⟨c.name, Text.lower c.type, !saysNotNull outer, outer.any (·.isKeyword "DEFAULT")⟩]
          (tableBody table (t :: rest)) := by
  have hword : (bareWord c.type).isKeywordOf typeEndWords = false := by
    simpa [bareWord, Token.isKeywordOf, Token.keyword?] using c.upper_type
  have htype : columnType c.name (bareWord c.type :: (ts ++ t :: rest))
      = .ok (Text.lower c.type) (ts ++ t :: rest) := by
    rw [columnType_cons, if_pos (.inr ⟨rfl, hword⟩),
      bind_of_ok (moreNames_of_ends fun u hu => (hends u hu).1),
      bind_of_ok (typeSuffix_of_ends hends)]
    have htext : String.join [Text.lower c.type] = Text.lower c.type := by simp [String.join]
    exact congrArg (EStateM.Result.ok · (ts ++ t :: rest)) htext
  have hcolumn : column (quotedName c.name :: bareWord c.type :: (ts ++ t :: rest))
      = .ok ⟨c.name, Text.lower c.type, !saysNotNull outer, outer.any (·.isKeyword "DEFAULT")⟩
          (t :: rest) := by
    unfold column columnDefinition
    rw [bind_of_ok (identifier_quotedName c.name _), bind_of_ok htype,
      bind_of_ok (element_outside h hcomma ht rest)]
    rfl
  have hmark : ∀ value, ¬ (quotedName c.name).isMark value = true := fun _ => Bool.false_ne_true
  have hconstraint : ¬ (quotedName c.name).isKeywordOf tableConstraintWords = true :=
    Bool.false_ne_true
  rw [tableBody_cons, if_neg (hmark ")"), if_neg (hmark ","), if_neg hconstraint,
    bind_of_ok hcolumn, tableBody_cons_column]

/-- A column definition is read as one column when its further pieces are passed over, and else as
more than one, or not at all. -/
theorem tableBody_definition (table : String) (c : ColumnDefinition) (ht : t.Ends)
    (rest : List Token) :
    (c.Whole ∧ tableBody table (c.tokens ++ t :: rest)
        = before [c.firstColumn] (tableBody table (t :: rest))) ∨
    (¬ c.Whole ∧
      Exceeds 1 (tableBody table (c.tokens ++ t :: rest)) (tableBody table (t :: rest))) := by
  have hends := endsType_modifiers c.modifiers ht rest
  rw [ColumnDefinition.tokens, List.cons_append, List.cons_append]
  rcases c.outside.cut with
    hnone | ⟨first, firstOuter, comma, more, moreOuter, hc, htokens, houter, hf, hnone, hm⟩
  · have hpieces : c.pieces = [c.modifiers.flatMap fun m => m.tree.outer] :=
      List.splitOnP_eq_singleton hnone
    refine .inl ⟨?_, ?_⟩
    · rw [ColumnDefinition.Whole, hpieces]
      exact List.forall_mem_nil _
    · rw [tableBody_first c c.outside hnone ht hends, ColumnDefinition.firstColumn, hpieces]
      rfl
  have hpieces : c.pieces = firstOuter :: moreOuter.splitOnP (·.isMark ",") := by
    rw [ColumnDefinition.pieces, houter, splitOnP_comma hc hnone]
  have hread : tableBody table (quotedName c.name :: bareWord c.type ::
      (first ++ comma :: (more ++ t :: rest)))
      = before [c.firstColumn] (tableBody table (more ++ t :: rest)) := by
    rw [htokens, List.append_assoc, List.cons_append] at hends
    rw [tableBody_first c hf hnone (.inl hc) hends, tableBody_comma hc,
      ColumnDefinition.firstColumn, hpieces]
    rfl
  rw [htokens, List.append_assoc, List.cons_append, hread, ColumnDefinition.Whole, hpieces]
  rcases tableBody_pieces table hm ht rest with
    ⟨hall, heq⟩ | ⟨⟨piece, hpiece, hfalse⟩, hexceeds⟩
  · exact .inl ⟨hall, by rw [heq]⟩
  · refine .inr ⟨fun hall => ?_, hexceeds.before [c.firstColumn]⟩
    exact absurd ((hall piece hpiece).symm.trans hfalse) (by decide)

/-- The tokens of column definitions with commas between them. -/
def bodyTokens (columns : List ColumnDefinition) : List Token :=
  [mark ","].intercalate (columns.map ColumnDefinition.tokens)

/-- After the first definition there is a token that ends it, and the others are read after that. -/
theorem exists_bodyTokens_cons (table : String) (c : ColumnDefinition)
    (columns : List ColumnDefinition) (rest : List Token) :
    ∃ t more, t.Ends ∧
      bodyTokens (c :: columns) ++ mark ")" :: rest = c.tokens ++ t :: more ∧
      tableBody table (t :: more) = tableBody table (bodyTokens columns ++ mark ")" :: rest) := by
  cases columns with
  | nil => exact ⟨mark ")", rest, .inr (isMark_mark ")"), by simp [bodyTokens], rfl⟩
  | cons d columns =>
    refine ⟨mark ",", bodyTokens (d :: columns) ++ mark ")" :: rest, .inl (isMark_mark ","), ?_,
      tableBody_comma (isMark_mark ",") _⟩
    simp [bodyTokens, List.intercalate_cons_cons]

/-- Column definitions are read as one column each when the further pieces of each are passed over,
and else as more columns, or not at all. -/
theorem tableBody_definitions (table : String) (columns : List ColumnDefinition)
    (rest : List Token) :
    ((∀ c ∈ columns, c.Whole) ∧ tableBody table (bodyTokens columns ++ mark ")" :: rest)
        = .ok (columns.map ColumnDefinition.firstColumn) rest) ∨
    ((∃ c ∈ columns, ¬ c.Whole) ∧
      Exceeds columns.length (tableBody table (bodyTokens columns ++ mark ")" :: rest))
        (.ok [] rest)) := by
  induction columns with
  | nil =>
    refine .inl ⟨List.forall_mem_nil _, ?_⟩
    rw [bodyTokens, List.map_nil, List.intercalate_nil, List.nil_append, tableBody_cons,
      if_pos (isMark_mark ")")]
    rfl
  | cons c columns ih =>
    obtain ⟨t, more, ht, htokens, hmore⟩ := exists_bodyTokens_cons table c columns rest
    have hc := tableBody_definition table c ht more
    rw [htokens]
    rw [hmore] at hc
    rcases hc with ⟨hwhole, hc⟩ | ⟨hbroken, hc⟩
    · rw [hc]
      rcases ih with ⟨hall, hread⟩ | ⟨⟨d, hd, hbroken⟩, hexceeds⟩
      · exact .inl ⟨List.forall_mem_cons.2 ⟨hwhole, hall⟩, by rw [hread]; rfl⟩
      · refine .inr ⟨⟨d, List.mem_cons_of_mem c hd, hbroken⟩, ?_⟩
        rw [List.length_cons, Nat.add_comm]
        exact hexceeds.before [c.firstColumn]
    · refine .inr ⟨⟨c, List.mem_cons_self, hbroken⟩, ?_⟩
      rw [List.length_cons, Nat.add_comm]
      rcases ih with ⟨-, hread⟩ | ⟨-, hexceeds⟩
      · have hbefore : (.ok (columns.map ColumnDefinition.firstColumn) rest
            : Parser.Answer (List Column))
            = before (columns.map ColumnDefinition.firstColumn) (.ok [] rest) := by
          rw [before, List.append_nil]
        rw [hread, hbefore] at hc
        simpa using hc.of_before
      · exact hc.trans hexceeds

end SchemaCanvas.Sql.Statement
