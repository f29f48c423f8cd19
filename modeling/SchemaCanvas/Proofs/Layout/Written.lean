import Mathlib.Data.List.Forall2
import SchemaCanvas.Layout.Writer
import SchemaCanvas.Proofs.Number.Whole
import SchemaCanvas.Proofs.Sequence
import SchemaCanvas.Proofs.Sql.Comment
import SchemaCanvas.Proofs.Text.Segments

/-!
# What a written block looks like

A written block is its opening, lines, and its closing mark (`Block.write_eq_ok`); the lines are
those of its diagrams, in order, with an empty line between two diagrams (`Block.body`). When no
name in it holds a closing mark, the block is a whole comment (`Block.isComment_of_write`).
-/

namespace SchemaCanvas

/-- In related lists, every member of the second list is related to one of the first. -/
theorem forall₂_exists_of_mem_right {α β : Type} {R : α → β → Prop} {as : List α} {bs : List β}
    (h : List.Forall₂ R as bs) {b : β} (hb : b ∈ bs) : ∃ a ∈ as, R a b := by
  induction h with
  | nil => cases hb
  | @cons a b' as bs hab _ ih =>
    rcases List.mem_cons.1 hb with rfl | hb
    · exact ⟨a, List.mem_cons_self, hab⟩
    · obtain ⟨a', ha, hR⟩ := ih hb
      exact ⟨a', List.mem_cons_of_mem _ ha, hR⟩

/-! ## Lines -/

/-- The name that an entry is written with: a schema's, or the qualified name of a table. -/
def Entry.label : Entry → String
  | .wildcard schema => schema
  | .table name _ _ => name

/-- The names of an entry as they are written. -/
def Entry.written : Entry → List Char
  | .wildcard schema => Name.write schema.toList ++ ['.', '*']
  | .table name _ _ => Name.writeQualified name.toList

/-- Two whole numbers as they are written behind the names of an entry. -/
def coordinatesText (m n : Int) : List Char :=
  ' ' :: (m.repr.toList ++ ' ' :: n.repr.toList)

/-- An entry is written as its names, with its place behind them when both coordinates are known. -/
theorem Entry.line_eq_ok {strict : Bool} {e : Entry} {line : String}
    (h : e.line strict = .ok line) :
    line.toList = e.written ∧ e.position? = none ∨
      ∃ name x y m n, e = .table name (some x) (some y) ∧ x.round = .ok m ∧ y.round = .ok n ∧
        line.toList = e.written ++ coordinatesText m n := by
  cases e with
  | wildcard schema =>
    left
    rw [← Except.ok.inj h]
    exact ⟨by simp [Entry.written, Name.quote], rfl⟩
  | table name x y =>
    have bare : (if strict = true then Except.error (LayoutError.noPosition name)
        else .ok (Name.quoteQualified name)) = .ok line →
        line.toList = Name.writeQualified name.toList := by
      intro h
      split at h
      · cases h
      · rw [← Except.ok.inj h, Name.quoteQualified, String.toList_ofList]
    cases x with
    | none => exact .inl ⟨bare h, rfl⟩
    | some x =>
      cases y with
      | none => exact .inl ⟨bare h, rfl⟩
      | some y =>
        right
        change Position.line name ⟨x, y⟩ = .ok line at h
        obtain ⟨m, hm, hx⟩ := except_bind_eq_ok.1 h
        obtain ⟨n, hn, hy⟩ := except_bind_eq_ok.1 hx
        have round_eq : ∀ {a : Number} {m : Int}, LayoutError.ofNumber a.round = .ok m →
            a.round = .ok m := by
          intro a m ha
          cases hr : a.round with
          | ok k => rw [hr] at ha; exact congrArg _ (Except.ok.inj ha)
          | error cause => rw [hr] at ha; cases ha
        refine ⟨name, x, y, m, n, rfl, round_eq hm, round_eq hn, ?_⟩
        rw [← Except.ok.inj hy]
        simp [Entry.written, Name.quoteQualified, coordinatesText]

/-- Entries that are written together are written one by one. -/
theorem Entry.lines_eq_ok {strict : Bool} {entries : List Entry} {lines : List String}
    (h : Entry.lines strict entries = .ok lines) :
    List.Forall₂ (fun e line => e.line strict = .ok line) entries lines := by
  induction entries generalizing lines with
  | nil => rw [← Except.ok.inj h]; exact .nil
  | cons e entries ih =>
    obtain ⟨line, hline, hmore⟩ := except_bind_eq_ok.1 h
    obtain ⟨more, hlines, hcons⟩ := except_bind_eq_ok.1 hmore
    rw [← Except.ok.inj hcons]
    exact .cons hline (ih hlines)

/-- A diagram is written as its header and the lines of its entries. -/
theorem Diagram.lines_eq_ok {strict : Bool} {d : Diagram} {lines : List String}
    (h : d.lines strict = .ok lines) :
    ∃ entries, lines = ("[" ++ d.name ++ "]") :: entries ∧
      List.Forall₂ (fun e line => e.line strict = .ok line) d.entries entries := by
  obtain ⟨entries, hentries, hcons⟩ := except_bind_eq_ok.1 h
  exact ⟨entries, (Except.ok.inj hcons).symm, Entry.lines_eq_ok hentries⟩

namespace Block

/-! ## The whole block -/

/-- The lines of sections, with an empty line between two sections; no sections are one empty
line. -/
def body : List (List String) → List (List Char)
  | [] => [[]]
  | [lines] => lines.map String.toList
  | lines :: more => lines.map String.toList ++ [] :: body more

/-- The characters between the opening of a written block and its closing mark. -/
def writtenContent (sections : List (List String)) : List Char :=
  Text.join '\n' ([] :: (body sections ++ [[]]))

/-- A section that others follow is set off by an empty line. -/
theorem body_cons {lines : List String} {more : List (List String)} (h : more ≠ []) :
    body (lines :: more) = lines.map String.toList ++ [] :: body more := by
  cases more with
  | nil => exact absurd rfl h
  | cons _ _ => rfl

/-- A body has at least one line when every section has one. -/
theorem body_ne_nil {sections : List (List String)} (h : ∀ lines ∈ sections, lines ≠ []) :
    body sections ≠ [] := by
  match sections with
  | [] => exact List.cons_ne_nil _ _
  | [lines] => simpa [body] using h lines List.mem_cons_self
  | lines :: _ :: _ => simp [body]

/-- A line of the body is empty or a line of a section. -/
theorem mem_body {sections : List (List String)} {line : List Char} (h : line ∈ body sections) :
    line = [] ∨ ∃ lines ∈ sections, ∃ s ∈ lines, line = s.toList := by
  induction sections with
  | nil => exact .inl (List.mem_singleton.1 h)
  | cons lines more ih =>
    have own : line ∈ lines.map String.toList →
        ∃ lines' ∈ lines :: more, ∃ s ∈ lines', line = s.toList := by
      intro hl
      obtain ⟨s, hs, rfl⟩ := List.mem_map.1 hl
      exact ⟨lines, List.mem_cons_self, s, hs, rfl⟩
    cases more with
    | nil => exact .inr (own h)
    | cons next more =>
      rw [body_cons (by simp)] at h
      rcases List.mem_append.1 h with hl | hl
      · exact .inr (own hl)
      rcases List.mem_cons.1 hl with rfl | hl
      · exact .inl rfl
      · exact (ih hl).imp_right fun ⟨lines', hlines, found⟩ =>
          ⟨lines', List.mem_cons_of_mem _ hlines, found⟩

/-- Sections that are joined by empty lines are the lines of the body. -/
theorem toList_intercalate_sections {sections : List (List String)}
    (h : ∀ lines ∈ sections, lines ≠ []) :
    ("\n\n".intercalate (sections.map ("\n".intercalate ·))).toList
      = Text.join '\n' (body sections) := by
  induction sections with
  | nil => rfl
  | cons lines more ih =>
    have hlines : ("\n".intercalate lines).toList = Text.join '\n' (lines.map String.toList) :=
      Text.toList_intercalate (by simp) lines
    cases more with
    | nil => simpa [body] using hlines
    | cons next more =>
      have hmore : ∀ lines ∈ next :: more, lines ≠ [] := fun lines hl =>
        h lines (List.mem_cons_of_mem _ hl)
      have hne : lines.map String.toList ≠ [] := by simpa using h lines List.mem_cons_self
      have hbody : body (lines :: next :: more)
          = lines.map String.toList ++ [] :: body (next :: more) := rfl
      rw [List.map_cons, String.intercalate_cons_of_ne_nil (by simp), String.toList_append,
        String.toList_append, ih hmore, hlines, hbody, Text.join_append hne (by simp),
        Text.join_cons [] (body_ne_nil hmore)]
      simp

/-- A section for each diagram is the lines of that diagram with line feeds between them. -/
theorem sections_eq_ok {strict : Bool} {diagrams : List Diagram} {texts : List String}
    (h : sections strict diagrams = .ok texts) :
    ∃ parts, List.Forall₂ (fun d lines => d.lines strict = .ok lines) diagrams parts ∧
      texts = parts.map ("\n".intercalate ·) := by
  induction diagrams generalizing texts with
  | nil => exact ⟨[], .nil, (Except.ok.inj h).symm⟩
  | cons d diagrams ih =>
    obtain ⟨lines, hlines, hmore⟩ := except_bind_eq_ok.1 h
    obtain ⟨more, hsections, hcons⟩ := except_bind_eq_ok.1 hmore
    obtain ⟨parts, hparts, rfl⟩ := ih hsections
    exact ⟨lines :: parts, .cons hlines hparts, (Except.ok.inj hcons).symm⟩

/-- A written diagram has at least one line, its header. -/
theorem parts_ne_nil {strict : Bool} {diagrams : List Diagram} {parts : List (List String)}
    (h : List.Forall₂ (fun d lines => d.lines strict = .ok lines) diagrams parts) :
    ∀ lines ∈ parts, lines ≠ [] := by
  intro lines hl
  obtain ⟨d, -, hd⟩ := forall₂_exists_of_mem_right h hl
  obtain ⟨entries, rfl, -⟩ := Diagram.lines_eq_ok hd
  exact List.cons_ne_nil _ _

/-- A block is written as its opening, the lines of its diagrams and its closing mark. -/
theorem write_eq_ok {strict : Bool} {diagrams : DiagramSet} {block : String}
    (h : write strict diagrams = .ok block) :
    ∃ parts, List.Forall₂ (fun d lines => d.lines strict = .ok lines) diagrams.values parts ∧
      block.toList = '/' :: '*' :: ' ' :: (marker ++ writtenContent parts ++ commentClose) := by
  obtain ⟨texts, htexts, hblock⟩ := except_bind_eq_ok.1 h
  obtain ⟨parts, hparts, rfl⟩ := sections_eq_ok htexts
  have hne := parts_ne_nil hparts
  refine ⟨parts, hparts, ?_⟩
  have hjoined := toList_intercalate_sections hne
  rw [← Except.ok.inj hblock, writtenContent, Text.join_cons [] (by simp),
    Text.join_append (body_ne_nil hne) (by simp), ← hjoined]
  simp [Text.join, marker, commentClose]

end Block

/-! ## What can be written -/

/-- Entries can be written together when each of them can. -/
theorem Entry.exists_lines {strict : Bool} {entries : List Entry}
    (h : ∀ e ∈ entries, ∃ line, e.line strict = .ok line) :
    ∃ lines, Entry.lines strict entries = .ok lines := by
  induction entries with
  | nil => exact ⟨[], rfl⟩
  | cons e entries ih =>
    obtain ⟨line, hline⟩ := h e List.mem_cons_self
    obtain ⟨lines, hlines⟩ := ih fun e he => h e (List.mem_cons_of_mem _ he)
    exact ⟨line :: lines,
      except_bind_eq_ok.2 ⟨line, hline, except_bind_eq_ok.2 ⟨lines, hlines, rfl⟩⟩⟩

/-- A diagram can be written when each of its entries can. -/
theorem Diagram.exists_lines {strict : Bool} {d : Diagram}
    (h : ∀ e ∈ d.entries, ∃ line, e.line strict = .ok line) :
    ∃ lines, d.lines strict = .ok lines := by
  obtain ⟨lines, hlines⟩ := Entry.exists_lines h
  exact ⟨_, except_bind_eq_ok.2 ⟨lines, hlines, rfl⟩⟩

/-- Diagrams can be written when each of their entries can. -/
theorem Block.exists_sections {strict : Bool} {diagrams : List Diagram}
    (h : ∀ d ∈ diagrams, ∀ e ∈ d.entries, ∃ line, e.line strict = .ok line) :
    ∃ texts, Block.sections strict diagrams = .ok texts := by
  induction diagrams with
  | nil => exact ⟨[], rfl⟩
  | cons d diagrams ih =>
    obtain ⟨lines, hlines⟩ := Diagram.exists_lines (h d List.mem_cons_self)
    obtain ⟨texts, htexts⟩ := ih fun d hd => h d (List.mem_cons_of_mem _ hd)
    exact ⟨_, except_bind_eq_ok.2 ⟨lines, hlines, except_bind_eq_ok.2 ⟨texts, htexts, rfl⟩⟩⟩

/-- Diagrams whose entries all have a line can be written. -/
theorem Block.exists_write {strict : Bool} {diagrams : DiagramSet}
    (h : ∀ d ∈ diagrams.values, ∀ e ∈ d.entries, ∃ line, e.line strict = .ok line) :
    ∃ block, Block.write strict diagrams = .ok block := by
  obtain ⟨texts, htexts⟩ := Block.exists_sections h
  exact ⟨_, except_bind_eq_ok.2 ⟨texts, htexts, rfl⟩⟩

/-- An entry that has a place has a line when its place can be rounded. -/
theorem Entry.line_of_round {strict : Bool} {name : String} {x y : Number} {m n : Int}
    (hx : x.round = .ok m) (hy : y.round = .ok n) :
    (Entry.table name (some x) (some y)).line strict
      = .ok (Name.quoteQualified name ++ " " ++ toString m ++ " " ++ toString n) := by
  show Position.line name ⟨x, y⟩ = _
  rw [Position.line, hx, hy]
  rfl

/-! ## Marks in names and in lines -/

section Marks

variable {x y : Char}

/-- Two characters that are no quotes stand next to each other in a text when they do with its
quotes doubled. -/
theorem Text.pair_infix_of_double {q : Char} (hx : q ≠ x) (hy : q ≠ y) {cs : List Char}
    (h : [x, y] <:+: Text.double q cs) : [x, y] <:+: cs := by
  induction cs with
  | nil => exact h
  | cons c cs ih =>
    rw [Text.double] at h
    split at h
    · next hc =>
      rw [List.infix_cons_iff, List.infix_cons_iff] at h
      simp only [List.cons_prefix_cons, Ne.symm hx, false_and, false_or] at h
      exact (ih h).trans (List.suffix_cons c cs).isInfix
    · next hc =>
      rcases List.infix_cons_iff.1 h with hp | hi
      · obtain ⟨rfl, hrest⟩ := List.cons_prefix_cons.1 hp
        cases cs with
        | nil => simp [Text.double] at hrest
        | cons d cs =>
          rw [Text.double] at hrest
          split at hrest
          · exact absurd (List.cons_prefix_cons.1 hrest).1 (Ne.symm hy)
          · rw [← (List.cons_prefix_cons.1 hrest).1]
            exact List.IsPrefix.isInfix (by simp [List.cons_prefix_cons])
      · exact (ih hi).trans (List.suffix_cons c cs).isInfix

/-- Quoting a name brings no mark into it. -/
theorem Name.pair_infix_of_write (hx : '"' ≠ x) (hy : '"' ≠ y) {name : List Char}
    (h : [x, y] <:+: Name.write name) : [x, y] <:+: name := by
  rw [Name.write] at h
  split at h
  · exact h
  · have h : [x, y] <:+: [] ++ '"' :: (Text.double '"' name ++ '"' :: []) := h
    rw [Text.pair_infix_append hx hy, Text.pair_infix_append hx hy] at h
    rcases h with h | h | h
    · simp at h
    · exact Text.pair_infix_of_double hx hy h
    · simp at h

/-- Two characters that are no points or quotes stand next to each other in a name when they do in
the written name. -/
theorem Name.pair_infix_of_writeQualified (hx : x ∉ ['"', '.']) (hy : y ∉ ['"', '.'])
    {name : List Char} (h : [x, y] <:+: Name.writeQualified name) : [x, y] <:+: name := by
  simp only [List.mem_cons, List.not_mem_nil, or_false, not_or] at hx hy
  rw [Name.writeQualified, Text.pair_infix_append (Ne.symm hx.2) (Ne.symm hy.2)] at h
  rcases h with h | h
  · exact (Name.pair_infix_of_write (Ne.symm hx.1) (Ne.symm hy.1) h).trans
      (List.takeWhile_prefix _).isInfix
  · exact (Name.pair_infix_of_write (Ne.symm hx.1) (Ne.symm hy.1) h).trans
      ((List.drop_suffix _ _).trans (List.dropWhile_suffix _)).isInfix

/-- A closing mark in a line is one in the name that the line is about. -/
theorem Entry.close_infix_of_line {strict : Bool} {e : Entry} {line : String}
    (h : e.line strict = .ok line) (hi : Block.commentClose <:+: line.toList) :
    Block.commentClose <:+: e.label.toList := by
  have written : Block.commentClose <:+: e.written → Block.commentClose <:+: e.label.toList := by
    intro hi
    cases e with
    | wildcard schema =>
      rcases (Text.pair_infix_append (by decide) (by decide)).1 hi with hi | hi
      · exact Name.pair_infix_of_write (by decide) (by decide) hi
      · exact absurd hi (Text.not_pair_infix_of_not_mem (.inr (by decide)))
    | table name x y => exact Name.pair_infix_of_writeQualified (by decide) (by decide) hi
  rcases Entry.line_eq_ok h with ⟨hline, -⟩ | ⟨name, x, y, m, n, -, -, -, hline⟩
  · exact written (hline ▸ hi)
  · have slash : ∀ k : Int, '/' ∉ k.repr.toList := by
      intro k hk
      rcases mem_toList_repr hk with h | h
      · exact absurd h (by decide)
      · exact absurd h (by decide)
    rw [hline, coordinatesText] at hi
    rcases (Text.pair_infix_append (by decide) (by decide)).1 hi with hi | hi
    · exact written hi
    · refine absurd hi (Text.not_pair_infix_of_not_mem (.inr ?_))
      simp [slash m, slash n]

end Marks

/-- Whether a mark stands in none of the names that a diagram is written with. -/
def Diagram.Avoids (mark : List Char) (d : Diagram) : Prop :=
  ¬ mark <:+: d.name.toList ∧ ∀ e ∈ d.entries, ¬ mark <:+: e.label.toList

instance (mark : List Char) (d : Diagram) : Decidable (d.Avoids mark) :=
  inferInstanceAs (Decidable (_ ∧ _))

/-- No line of a diagram closes a comment when no name of the diagram does. -/
theorem Diagram.close_not_infix_of_lines {strict : Bool} {d : Diagram} {lines : List String}
    (h : d.lines strict = .ok lines) (hd : d.Avoids Block.commentClose) {line : String}
    (hline : line ∈ lines) : ¬ Block.commentClose <:+: line.toList := by
  obtain ⟨entries, rfl, hentries⟩ := Diagram.lines_eq_ok h
  rcases List.mem_cons.1 hline with rfl | hline
  · have hshape : ("[" ++ d.name ++ "]").toList = [] ++ '[' :: (d.name.toList ++ ']' :: []) := by
      simp
    rw [hshape, Block.commentClose, Text.pair_infix_append (by decide) (by decide),
      Text.pair_infix_append (by decide) (by decide)]
    rintro (hi | hi | hi)
    · simp at hi
    · exact hd.1 hi
    · simp at hi
  · obtain ⟨e, he, hwritten⟩ := forall₂_exists_of_mem_right hentries hline
    exact fun hi => hd.2 e he (Entry.close_infix_of_line hwritten hi)

/-- A block whose names hold no closing mark is a whole comment. -/
theorem Block.isComment_of_write {strict : Bool} {diagrams : DiagramSet} {block : String}
    (h : Block.write strict diagrams = .ok block)
    (hd : ∀ d ∈ diagrams.values, d.Avoids Block.commentClose) :
    Sql.Lexeme.IsComment block.toList := by
  obtain ⟨parts, hparts, hblock⟩ := Block.write_eq_ok h
  have hbody := Block.body_ne_nil (Block.parts_ne_nil hparts)
  -- The star of the closing mark stands on a line of its own.
  have hlines : ' ' :: (Block.marker ++ Block.writtenContent parts) ++ ['*']
      = Text.join '\n' ((' ' :: Block.marker) :: (Block.body parts ++ [['*']])) := by
    rw [Block.writtenContent, Text.join_cons [] (by simp), Text.join_cons _ (by simp),
      Text.join_append hbody (by simp), Text.join_append hbody (by simp)]
    simp [Text.join]
  refine ⟨' ' :: (Block.marker ++ Block.writtenContent parts), ?_, ?_⟩
  · rw [hblock]
    simp [Block.commentClose]
  · rw [hlines, Text.pair_infix_join (by decide) (by decide)]
    rintro ⟨line, hline, hi⟩
    rcases List.mem_cons.1 hline with rfl | hline
    · exact Text.not_pair_infix_of_not_mem (.inl (by decide)) hi
    rcases List.mem_append.1 hline with hline | hline
    · rcases Block.mem_body hline with rfl | ⟨lines, hl, s, hs, rfl⟩
      · simp at hi
      · obtain ⟨d, hmem, hwritten⟩ := forall₂_exists_of_mem_right hparts hl
        exact Diagram.close_not_infix_of_lines hwritten (hd d hmem) hs hi
    · rw [List.mem_singleton.1 hline] at hi
      exact Text.not_pair_infix_of_not_mem (.inr (by decide)) hi

end SchemaCanvas
