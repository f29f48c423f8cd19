import SchemaCanvas.Picture.Refresh
import SchemaCanvas.Proofs.Layout.Reading
import SchemaCanvas.Proofs.Layout.Reread
import SchemaCanvas.Proofs.Registry
import SchemaCanvas.Proofs.Text.Cut

/-!
# What a block can hold

A block is read line by line, so what its lines make of every diagram, all its diagrams have in the
end (`Block.forall_readText`). A block ends at its first closing mark, and its entries stand on one
line each. So whatever is written in a block, no name of a table that is read from it has a line
feed or a closing mark in it (`Block.tablesFit_readText`).
-/

namespace SchemaCanvas

/-! ## Characters and marks that reading leaves out -/

namespace Text

/-- Each segment stands in the text that the segments are put together to. -/
theorem infix_of_mem_join {sep : Char} {segments : List (List Char)} {segment : List Char}
    (h : segment ∈ segments) : segment <:+: join sep segments := by
  induction segments with
  | nil => cases h
  | cons next segments ih =>
    by_cases hs : segments = []
    · subst hs
      rw [List.mem_singleton.1 h]
      exact List.infix_rfl
    · rw [join_cons next hs]
      rcases List.mem_cons.1 h with rfl | h
      · exact (List.prefix_append _ _).isInfix
      · exact (ih h).trans ((List.suffix_cons sep _).trans (List.suffix_append next _)).isInfix

/-- Each segment that a text is split into stands in the text. -/
theorem infix_of_mem_splitOn {sep : Char} {cs segment : List Char} (h : segment ∈ splitOn sep cs) :
    segment <:+: cs := by
  have hjoin : segment <:+: join sep (splitOn sep cs) := infix_of_mem_join h
  rwa [join_splitOn] at hjoin

/-- Without blanks at both ends a text is a beginning of the text without blanks at its start. -/
theorem strip_prefix_stripStart (cs : List Char) : strip cs <+: stripStart cs := by
  rw [strip, stripEnd, ← List.reverse_suffix, List.reverse_reverse]
  exact List.dropWhile_suffix _

/-- A text without the blanks at its ends stands in the text. -/
theorem infix_strip (cs : List Char) : strip cs <:+: cs :=
  (strip_prefix_stripStart cs).isInfix.trans (List.dropWhile_suffix _).isInfix

variable {q : Char}

/-- Making doubled quotes single adds no character. -/
theorem mem_of_mem_collapse {c : Char} {cs : List Char} (h : c ∈ collapse q cs) : c ∈ cs := by
  fun_induction collapse q cs with
  | case1 => exact h
  | case2 d => exact h
  | case3 d e cs hq ih =>
    rcases List.mem_cons.1 h with rfl | h
    · exact hq.1 ▸ List.mem_cons_self
    · exact List.mem_cons_of_mem _ (List.mem_cons_of_mem _ (ih h))
  | case4 d e cs hq ih =>
    rcases List.mem_cons.1 h with rfl | h
    · exact List.mem_cons_self
    · exact List.mem_cons_of_mem _ (ih h)

/-- Making doubled quotes single keeps the first character. -/
theorem head?_collapse (q : Char) (cs : List Char) : (collapse q cs).head? = cs.head? := by
  fun_cases collapse q cs with
  | case1 => rfl
  | case2 c => rfl
  | case3 c d cs hq => simp [hq.1]
  | case4 c d cs hq => rfl

/-- Writing pairs of quotes once brings no mark into a text. -/
theorem pair_infix_of_collapse {x y : Char} (hx : q ≠ x) {cs : List Char}
    (h : [x, y] <:+: collapse q cs) : [x, y] <:+: cs := by
  fun_induction collapse q cs with
  | case1 => exact h
  | case2 c => exact h
  | case3 c d cs hq ih =>
    rcases List.infix_cons_iff.1 h with hp | hi
    · exact absurd (List.cons_prefix_cons.1 hp).1 (Ne.symm hx)
    · exact (ih hi).trans ((List.suffix_cons d cs).trans (List.suffix_cons c _)).isInfix
  | case4 c d cs hq ih =>
    rcases List.infix_cons_iff.1 h with hp | hi
    · obtain ⟨rfl, rest, hrest⟩ := List.cons_prefix_cons.1 hp
      have hhead := head?_collapse q (d :: cs)
      rw [← hrest, List.singleton_append, List.head?_cons, List.head?_cons,
        Option.some.injEq] at hhead
      subst hhead
      exact (List.prefix_append [x, y] cs).isInfix
    · exact (ih hi).trans (List.suffix_cons c _).isInfix

end Text

/-! ## Names that fit into a line of a block -/

namespace Name

/-- Whether a name can stand in a line of a block: it has no line feed and no closing mark in it. -/
def Fits (cs : List Char) : Prop :=
  '\n' ∉ cs ∧ ¬ Block.commentClose <:+: cs

instance (cs : List Char) : Decidable (Fits cs) :=
  inferInstanceAs (Decidable (_ ∧ _))

/-- Every part of a text that fits into a line fits into one. -/
theorem Fits.part {cs ds : List Char} (h : Fits cs) (hi : ds <:+: cs) : Fits ds :=
  ⟨fun hn => h.1 (hi.subset hn), fun hc => h.2 (hc.trans hi)⟩

/-- A qualified name fits when its parts do. -/
theorem fits_append {cs ds : List Char} : Fits (cs ++ '.' :: ds) ↔ Fits cs ∧ Fits ds := by
  rw [Fits, Block.commentClose, Text.pair_infix_append (by decide) (by decide), Fits, Fits,
    Block.commentClose]
  simp only [List.mem_append, List.mem_cons, Char.reduceEq, false_or, not_or]
  exact and_and_and_comm

/-- A name fits into a line when it is read from a text that does. -/
theorem fits_read {cs : List Char} (h : Fits cs) : Fits (read cs) := by
  cases cs with
  | nil => exact h
  | cons c cs =>
    rw [read]
    split
    · have hinside : Fits cs.dropLast :=
        h.part ((List.dropLast_prefix cs).isInfix.trans (List.suffix_cons c cs).isInfix)
      exact ⟨fun hn => hinside.1 (Text.mem_of_mem_collapse hn),
        fun hc => hinside.2 (Text.pair_infix_of_collapse (by decide) hc)⟩
    · exact h

end Name

namespace Line

/-- The table that is read after a schema stands at the front of what is left of the entry. -/
theorem target?_eq_some {cs table rest : List Char} (h : target? cs = some (some table, rest)) :
    cs = table ++ rest := by
  unfold target? at h
  split at h
  · cases h
  · obtain ⟨cut, hcut, hpair⟩ := Option.map_eq_some_iff.1 h
    obtain ⟨htable, rfl⟩ := Prod.mk.inj hpair
    rw [← Option.some.inj htable]
    exact (Name.form_of_scan hcut).1

/-- The names of an entry stand in its line. -/
theorem infix_of_parts? {cs schema trailing : List Char} {target : Option (List Char)}
    (h : parts? cs = some (schema, target, trailing)) :
    schema <:+: cs ∧ ∀ table ∈ target, table <:+: cs := by
  obtain ⟨⟨written, rest⟩, hscan, h⟩ := Option.bind_eq_some_iff.1 h
  dsimp only at h
  split at h
  · next rest =>
    obtain ⟨⟨found, after⟩, htarget, h⟩ := Option.bind_eq_some_iff.1 h
    obtain ⟨trailing', -, h⟩ := Option.bind_eq_some_iff.1 h
    simp only [Option.some.injEq, Prod.mk.injEq] at h
    obtain ⟨rfl, rfl, -⟩ := h
    rw [(Name.form_of_scan hscan).1]
    refine ⟨(List.prefix_append _ _).isInfix, fun table ht => ?_⟩
    rw [Option.mem_def.1 ht] at htarget
    rw [target?_eq_some htarget]
    exact ⟨written ++ ['.'], after, by simp⟩
  · cases h

/-- The entries that are read: wildcards, and tables with a schema's name before a point, either
without a place or with two real numbers for it. -/
theorem entryOfParts_eq_ok {schema trailing : List Char} {target : Option (List Char)} {e : Entry}
    (h : entryOfParts schema target trailing = .ok e) :
    (target = none ∧ e = .wildcard (String.ofList (Name.read schema))) ∨
      ∃ table name, target = some table ∧ name.toList = Name.read schema ++ '.' :: Name.read table ∧
        (e = .table name none none ∨
          ∃ x y, e = .table name (some (.real x)) (some (.real y))) := by
  cases target with
  | none =>
    simp only [entryOfParts] at h
    split at h
    · exact .inl ⟨rfl, (Except.ok.inj h).symm⟩
    · cases h
  | some table =>
    refine .inr ⟨table, _, rfl, String.toList_ofList, ?_⟩
    simp only [entryOfParts] at h
    split at h
    · exact .inl (Except.ok.inj h).symm
    · split at h
      · next x y _ => exact .inr ⟨x, y, (Except.ok.inj h).symm⟩
      · cases h

/-- A line that is read as an entry has the parts of one, and they make the entry. -/
theorem parts?_of_read {cs : List Char} {e : Entry} (h : read cs = .entry (.ok e)) :
    ∃ schema target trailing, parts? cs = some (schema, target, trailing) ∧
      entryOfParts schema target trailing = .ok e := by
  unfold read at h
  split at h
  · cases h
  split at h
  · next hparts => exact ⟨_, _, _, hparts, Line.entry.inj h⟩
  · cases h

/-- The name of an entry that is read from a line fits into a line. -/
theorem fits_of_read {cs : List Char} {e : Entry} (h : read cs = .entry (.ok e))
    (hcs : Name.Fits cs) : Name.Fits e.label.toList := by
  obtain ⟨schema, target, trailing, hparts, he⟩ := parts?_of_read h
  obtain ⟨hschema, htarget⟩ := infix_of_parts? hparts
  have hfits := Name.fits_read (hcs.part hschema)
  rcases entryOfParts_eq_ok he with ⟨-, rfl⟩ | ⟨table, name, ht, hname, hplace⟩
  · rwa [Entry.label, String.toList_ofList]
  · have hlabel : e.label = name := by
      rcases hplace with rfl | ⟨x, y, rfl⟩ <;> rfl
    rw [hlabel, hname, Name.fits_append]
    exact ⟨hfits, Name.fits_read (hcs.part (htarget table ht))⟩

end Line

/-! ## Diagrams that are read -/

/-- What lines of a certain form make of every diagram: one that is opened has the property, and one
that has it keeps it when an entry is added. -/
structure Line.Keeps (T : List Char → Prop) (P : String → Diagram → Prop) : Prop where
  header : ∀ {text name}, T text → read text = .header name → P name ⟨name, []⟩
  entry : ∀ {text d e}, T text → read text = .entry (.ok e) → P d.name d →
    P d.name { d with entries := d.entries ++ [e] }

namespace Block

variable {T : List Char → Prop} {P : String → Diagram → Prop}

namespace Progress

/-- Whether all diagrams that have been opened have a property together with their names. -/
def Forall (P : String → Diagram → Prop) (p : Progress) : Prop :=
  p.finished.Forall P ∧ ∀ d, p.current = some d → P d.name d

/-- What holds of the finished diagrams and of the one being read holds of all diagrams. -/
theorem Forall.diagrams {p : Progress} (h : p.Forall P) : p.diagrams.Forall P := by
  unfold Progress.diagrams
  split
  · exact h.1
  · next d hd => exact h.1.insert (h.2 d hd)

/-- One more line keeps what lines of its form keep. -/
theorem Forall.step {p q : Progress} {text : List Char} {line : Int} (hp : p.Forall P)
    (hk : Line.Keeps T P) (h : p.step text line = .ok q) (htext : T text) : q.Forall P := by
  have hstep := h ▸ p.stepped text line
  cases hstep with
  | ignored => exact hp
  | opened hread =>
    refine ⟨hp.diagrams, fun d hd => ?_⟩
    rw [← Option.some.inj hd]
    exact hk.header htext hread
  | homeless => exact hp
  | @kept entry d hread hcurrent =>
    refine ⟨hp.1, fun d' hd' => ?_⟩
    rw [← Option.some.inj hd']
    exact hk.entry htext hread (hp.2 d hcurrent)
  | malformed => exact hp

/-- Lines keep what lines of their form keep. -/
theorem Forall.steps {texts : List (List Char)} {p q : Progress} {line : Int} (hp : p.Forall P)
    (hk : Line.Keeps T P) (h : p.steps texts line = .ok q)
    (htexts : ∀ text ∈ texts, T (Text.strip text)) : q.Forall P := by
  induction texts generalizing p line with
  | nil => exact Except.ok.inj h ▸ hp
  | cons text texts ih =>
    rw [Progress.steps] at h
    split at h
    · next r hr =>
      exact ih (hp.step hk hr (htexts text List.mem_cons_self)) h
        fun text ht => htexts text (List.mem_cons_of_mem _ ht)
    · cases h

end Progress

/-- All diagrams of a content have what its lines keep. -/
theorem forall_readContent {content : List Char} {line : Int} {diagrams : DiagramSet}
    {ws : List Warning} (hk : Line.Keeps T P) (h : readContent content line = .ok (diagrams, ws))
    (hlines : ∀ text ∈ Text.lines content, T (Text.strip text)) : diagrams.Forall P := by
  have hstart : Progress.start.Forall P := ⟨Registry.forall_empty, nofun⟩
  obtain ⟨p, hp, rfl, -⟩ := readContent_eq_ok.1 h
  exact (hstart.steps hk hp hlines).diagrams

/-- All diagrams that are read from a text have what lines without a closing mark keep. -/
theorem forall_readText {text : String} {diagrams : DiagramSet} {ws : List Warning}
    (hk : Line.Keeps Name.Fits P) (h : readText text = .ok (some diagrams, ws)) :
    diagrams.Forall P := by
  obtain ⟨l, more, hl, hread, -⟩ := readText_eq_ok.1 h
  have hclose : ¬ commentClose <:+: l.content := by
    simp only [locate, bind, Option.bind_eq_some_iff, pure, Option.some.injEq] at hl
    obtain ⟨found, -, cut, hmark, rfl⟩ := hl
    have hmark := ((Text.findMark_eq_some_iff (by decide)).1 hmark).2
    exact fun hi => hmark (hi.trans (List.prefix_append _ _).isInfix)
  exact forall_readContent hk hread fun text ht =>
    Name.Fits.part ⟨Text.not_mem_of_mem_splitOn ht,
      fun hi => hclose (hi.trans (Text.infix_of_mem_splitOn ht))⟩ (Text.infix_strip text)

end Block

/-! ## Tables whose names fit -/

/-- Whether the names of all tables that have an entry fit into a line of a block. -/
def Diagram.TablesFit (d : Diagram) : Prop :=
  ∀ name ∈ d.tableNames, Name.Fits name.toList

/-- Whether the names of all tables that have an entry in one of the diagrams fit into a line. -/
def DiagramSet.TablesFit (diagrams : DiagramSet) : Prop :=
  ∀ name d, diagrams.get? name = some d → d.TablesFit

/-- The names of all tables that are read from a block fit into a line of it. -/
theorem Block.tablesFit_readText {text : String} {diagrams : DiagramSet} {ws : List Warning}
    (h : readText text = .ok (some diagrams, ws)) : diagrams.TablesFit := by
  have label_eq : ∀ {e : Entry} {name : String}, e.tableName? = some name → e.label = name := by
    intro e name hn
    cases e with
    | wildcard schema => cases hn
    | table other x y => exact Option.some.inj hn
  refine forall_readText (P := fun _ d => d.TablesFit) ⟨fun _ _ => nofun, ?_⟩ h
  intro text d e htext hread hd name hname
  rw [Diagram.tableNames, List.filterMap_append] at hname
  rcases List.mem_append.1 hname with hname | hname
  · exact hd name hname
  · obtain ⟨e', he, hname⟩ := List.mem_filterMap.1 hname
    rw [List.mem_singleton.1 he] at hname
    rw [← label_eq hname]
    exact Line.fits_of_read hread htext

end SchemaCanvas
