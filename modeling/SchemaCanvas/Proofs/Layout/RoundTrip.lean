import SchemaCanvas.Proofs.Layout.Located
import SchemaCanvas.Proofs.Layout.Reading
import SchemaCanvas.Proofs.Layout.Reread
import SchemaCanvas.Proofs.Registry

/-!
# Written blocks read back

A block whose names can be told apart from what surrounds them (`Diagram.Legible`) is read as the
diagrams that were written, with their coordinates rounded to whole pixels and without a warning
(`Block.readText_write`). When all coordinates are whole numbers of double precision, such as those
below `2 ^ 53`, what is read is what was written (`Block.readText_write_whole`).
-/

namespace SchemaCanvas

/-! ## Line feeds in written lines -/

/-- Doubling quotes adds no other character. -/
theorem Text.mem_of_mem_double {q c : Char} {cs : List Char} (h : c ∈ Text.double q cs) :
    c ∈ cs := by
  induction cs with
  | nil => cases h
  | cons d cs ih =>
    rw [Text.double] at h
    split at h
    · next hd =>
      rcases List.mem_cons.1 h with rfl | h
      · exact hd ▸ List.mem_cons_self
      rcases List.mem_cons.1 h with rfl | h
      · exact hd ▸ List.mem_cons_self
      · exact List.mem_cons_of_mem _ (ih h)
    · rcases List.mem_cons.1 h with rfl | h
      · exact List.mem_cons_self
      · exact List.mem_cons_of_mem _ (ih h)

/-- A written name has no characters but those of the name and quotes. -/
theorem Name.mem_of_mem_write {c : Char} {name : List Char} (h : c ∈ Name.write name) :
    c = '"' ∨ c ∈ name := by
  rw [Name.write] at h
  split at h
  · exact .inr h
  · rw [Text.quote, List.cons_append] at h
    rcases List.mem_cons.1 h with rfl | h
    · exact .inl rfl
    rcases List.mem_append.1 h with h | h
    · exact .inr (Text.mem_of_mem_double h)
    · exact .inl (List.mem_singleton.1 h)

/-- A line feed in a written entry comes from its names. -/
theorem Entry.newline_mem_of_written {e : Entry} (h : '\n' ∈ e.written) :
    '\n' ∈ e.label.toList := by
  cases e with
  | wildcard schema =>
    rcases List.mem_append.1 h with h | h
    · exact (Name.mem_of_mem_write h).resolve_left (by decide)
    · exact absurd h (by decide)
  | table name x y =>
    rcases List.mem_append.1 h with h | h
    · exact (List.takeWhile_prefix _).subset ((Name.mem_of_mem_write h).resolve_left (by decide))
    · have h := (Name.mem_of_mem_write ((List.mem_cons.1 h).resolve_left (by decide))).resolve_left
        (by decide)
      exact (List.dropWhile_suffix _).subset ((List.drop_suffix _ _).subset h)

/-- A line feed in a line is one in the name that the line is about. -/
theorem Entry.newline_mem_of_line {strict : Bool} {e : Entry} {line : String}
    (h : e.line strict = .ok line) (hn : '\n' ∈ line.toList) : '\n' ∈ e.label.toList := by
  have newline : ∀ m : Int, '\n' ∉ m.repr.toList := by
    intro m hm
    exact absurd (Line.isBlank_of_mem_repr hm) (by decide)
  rcases Entry.line_eq_ok h with ⟨hline, -⟩ | ⟨name, x, y, m, n, -, -, -, hline⟩
  · exact Entry.newline_mem_of_written (hline ▸ hn)
  · rw [hline] at hn
    rcases List.mem_append.1 hn with hn | hn
    · exact Entry.newline_mem_of_written hn
    · simp [coordinatesText, newline m, newline n] at hn

/-- The lines of a diagram are single lines when the names in it are. -/
theorem Diagram.newline_not_mem_of_lines {strict : Bool} {d : Diagram} {lines : List String}
    (h : d.lines strict = .ok lines) (hname : '\n' ∉ d.name.toList)
    (hlabel : ∀ e ∈ d.entries, '\n' ∉ e.label.toList) {line : String} (hline : line ∈ lines) :
    '\n' ∉ line.toList := by
  obtain ⟨entries, rfl, hentries⟩ := Diagram.lines_eq_ok h
  rcases List.mem_cons.1 hline with rfl | hline
  · simp [hname]
  · obtain ⟨e, he, hwritten⟩ := forall₂_exists_of_mem_right hentries hline
    exact fun hn => hlabel e he (Entry.newline_mem_of_line hwritten hn)

/-- The content of a written block has the lines of the body between two empty ones. -/
theorem Block.lines_writtenContent {strict : Bool} {ds : List Diagram} {parts : List (List String)}
    (h : List.Forall₂ (fun d lines => d.lines strict = .ok lines) ds parts)
    (hname : ∀ d ∈ ds, '\n' ∉ d.name.toList)
    (hlabel : ∀ d ∈ ds, ∀ e ∈ d.entries, '\n' ∉ e.label.toList) :
    Text.lines (writtenContent parts) = [] :: (body parts ++ [[]]) := by
  refine Text.splitOn_join (by simp) fun text ht => ?_
  rcases List.mem_cons.1 ht with rfl | ht
  · simp
  rcases List.mem_append.1 ht with ht | ht
  · rcases mem_body ht with rfl | ⟨lines, hl, line, hline, rfl⟩
    · simp
    · obtain ⟨d, hd, hwritten⟩ := forall₂_exists_of_mem_right h hl
      exact Diagram.newline_not_mem_of_lines hwritten (hname d hd) (hlabel d hd) hline
  · rw [List.mem_singleton.1 ht]
    simp

/-- Whether a block with the diagram can be read: every line is told apart from the next one, the
header from the entries, the table of an entry from its schema, and the block from what follows
it. -/
structure Diagram.Legible (d : Diagram) : Prop where
  name_ne : d.name ≠ ""
  strip_name : Text.strip d.name.toList = d.name.toList
  bracket : ']' ∉ d.name.toList
  newline_name : '\n' ∉ d.name.toList
  newline_label : ∀ e ∈ d.entries, '\n' ∉ e.label.toList
  avoids : d.Avoids Block.commentClose
  qualified : ∀ e ∈ d.entries, e.Qualified

instance (e : Entry) : Decidable e.Qualified :=
  match e with
  | .wildcard _ => inferInstanceAs (Decidable True)
  | .table name _ _ => inferInstanceAs (Decidable ('.' ∈ name.toList))

instance (d : Diagram) : Decidable d.Legible :=
  decidable_of_iff (d.name ≠ "" ∧ Text.strip d.name.toList = d.name.toList ∧
      ']' ∉ d.name.toList ∧ '\n' ∉ d.name.toList ∧ (∀ e ∈ d.entries, '\n' ∉ e.label.toList) ∧
      d.Avoids Block.commentClose ∧ ∀ e ∈ d.entries, e.Qualified)
    ⟨fun ⟨h₁, h₂, h₃, h₄, h₅, h₆, h₇⟩ => ⟨h₁, h₂, h₃, h₄, h₅, h₆, h₇⟩,
      fun ⟨h₁, h₂, h₃, h₄, h₅, h₆, h₇⟩ => ⟨h₁, h₂, h₃, h₄, h₅, h₆, h₇⟩⟩

/-- How a diagram comes back that is written and read. -/
def Diagram.Reread (d d' : Diagram) : Prop :=
  d'.name = d.name ∧ List.Forall₂ Entry.Reread d.entries d'.entries

namespace Block

/-! ## Written lines -/

namespace Progress

/-- The lines of entries are read as the entries of the diagram that was opened last. -/
theorem steps_entries {strict : Bool} {es : List Entry} {lines : List String}
    (h : List.Forall₂ (fun e line => e.line strict = .ok line) es lines)
    (hq : ∀ e ∈ es, e.Qualified) :
    ∃ es', List.Forall₂ Entry.Reread es es' ∧ ∀ finished name old ws line,
      (⟨finished, some ⟨name, old⟩, ws⟩ : Progress).steps (lines.map String.toList) line
        = .ok ⟨finished, some ⟨name, old ++ es'⟩, ws⟩ := by
  induction h with
  | nil => exact ⟨[], .nil, fun _ _ _ _ _ => by simp [steps]⟩
  | @cons e text es lines he h ih =>
    obtain ⟨e', hreread, hread⟩ := Entry.read_line he (hq e List.mem_cons_self)
    obtain ⟨es', hes, hsteps⟩ := ih fun e he => hq e (List.mem_cons_of_mem _ he)
    refine ⟨e' :: es', .cons hreread hes, fun finished name old ws line => ?_⟩
    have hstep : (⟨finished, some ⟨name, old⟩, ws⟩ : Progress).step (Text.strip text.toList) line
        = .ok ⟨finished, some ⟨name, old ++ [e']⟩, ws⟩ := by
      rw [step, hread]
    rw [List.map_cons, steps_cons_of_ok hstep, hsteps, List.append_assoc]
    rfl

/-- The lines of a diagram open it and are read as its entries. -/
theorem steps_diagram {strict : Bool} {d : Diagram} (hd : d.Legible) {lines : List String}
    (h : d.lines strict = .ok lines) :
    ∃ d', d.Reread d' ∧ ∀ (p : Progress) line, d.name ∉ p.diagrams.keys →
      p.steps (lines.map String.toList) line = .ok ⟨p.diagrams, some d', p.warnings⟩ := by
  obtain ⟨entries, rfl, hentries⟩ := Diagram.lines_eq_ok h
  obtain ⟨es', hes, hsteps⟩ := steps_entries hentries hd.qualified
  refine ⟨⟨d.name, es'⟩, ⟨rfl, hes⟩, fun p line hn => ?_⟩
  have hstep : p.step (Text.strip ("[" ++ d.name ++ "]").toList) line
      = .ok ⟨p.diagrams, some ⟨d.name, []⟩, p.warnings⟩ := by
    have hcontains : ¬ p.diagrams.contains d.name = true := fun h => hn (Registry.contains_iff.1 h)
    rw [step, Line.read_header hd.name_ne hd.strip_name hd.bracket]
    exact if_neg hcontains
  rw [List.map_cons, steps_cons_of_ok hstep, hsteps, List.nil_append]

/-- The lines of sections are read as their diagrams, behind the diagrams that have been opened. -/
theorem steps_body {strict : Bool} {ds : List Diagram} {parts : List (List String)}
    (h : List.Forall₂ (fun d lines => d.lines strict = .ok lines) ds parts)
    (hd : ∀ d ∈ ds, d.Legible) :
    ∃ ds', List.Forall₂ Diagram.Reread ds ds' ∧ ∀ (p : Progress) line,
      (p.diagrams.keys ++ ds.map Diagram.name).Nodup → ∃ q, p.steps (body parts) line = .ok q ∧
        q.diagrams.items = p.diagrams.items ++ ds'.map (fun d => (d.name, d)) ∧
        q.warnings = p.warnings := by
  induction h with
  | nil =>
    refine ⟨[], .nil, fun p line _ => ⟨p, ?_, by simp, rfl⟩⟩
    rw [body, steps_cons_of_ok (p.step_nil line), steps]
  | @cons d lines ds parts hlines h ih =>
    obtain ⟨d', hreread, hsteps⟩ := steps_diagram (hd d List.mem_cons_self) hlines
    obtain ⟨ds', hds, hmore⟩ := ih fun d he => hd d (List.mem_cons_of_mem _ he)
    refine ⟨d' :: ds', .cons hreread hds, fun p line hn => ?_⟩
    have hnew : d.name ∉ p.diagrams.keys := by
      intro hmem
      rw [List.nodup_append] at hn
      exact hn.2.2 d.name hmem d.name (by simp) rfl
    have hopened := hsteps p line hnew
    -- The diagram that is open counts among those that have been opened.
    have hitems : (Progress.mk p.diagrams (some d') p.warnings).diagrams.items
        = p.diagrams.items ++ [(d'.name, d')] :=
      Registry.items_insert_of_not_mem (hreread.1 ▸ hnew) d'
    cases parts with
    | nil =>
      cases h
      cases hds
      exact ⟨_, hopened, hitems, rfl⟩
    | cons next parts =>
      have hkeys : (Progress.mk p.diagrams (some d') p.warnings).diagrams.keys
          = p.diagrams.keys ++ [d.name] := by
        rw [Registry.keys, hitems, List.map_append, ← hreread.1]
        rfl
      obtain ⟨q, hq, hqitems, hqw⟩ := hmore ⟨p.diagrams, some d', p.warnings⟩
        (line + (lines.map String.toList).length + 1) (by
          rw [hkeys, List.append_assoc]
          exact hn)
      refine ⟨q, ?_, ?_, hqw⟩
      · rw [body_cons (by simp), steps_append_of_ok hopened, steps_cons_of_ok (step_nil _ _), hq]
      · rw [hqitems, hitems, List.append_assoc]
        rfl

end Progress

/-! ## The whole block -/

/-- The content of a written block is read as its diagrams. -/
theorem readContent_writtenContent {strict : Bool} {ds : List Diagram} {parts : List (List String)}
    (h : List.Forall₂ (fun d lines => d.lines strict = .ok lines) ds parts)
    (hd : ∀ d ∈ ds, d.Legible) (hn : (ds.map Diagram.name).Nodup) (line : Int) :
    ∃ ds' D', List.Forall₂ Diagram.Reread ds ds' ∧
      readContent (writtenContent parts) line = .ok (D', []) ∧
      D'.items = ds'.map fun d => (d.name, d) := by
  obtain ⟨ds', hds, hsteps⟩ := Progress.steps_body h hd
  obtain ⟨q, hq, hitems, hw⟩ := hsteps .start (line + 1) (by
    simpa [Progress.start, Progress.diagrams] using hn)
  refine ⟨ds', q.diagrams, hds, readContent_eq_ok.2 ⟨q, ?_, rfl, hw⟩,
    by simpa [Progress.start, Progress.diagrams] using hitems⟩
  have hlines := lines_writtenContent h (fun d hmem => (hd d hmem).newline_name)
    fun d hmem => (hd d hmem).newline_label
  have hlast : q.steps [[]] (line + 1 + (body parts).length) = .ok q := by
    rw [Progress.steps_cons_of_ok (q.step_nil _), Progress.steps]
  rw [hlines, Progress.steps_cons_of_ok (Progress.step_nil _ _), Progress.steps_append_of_ok hq,
    hlast]

/-- The opening of a written block is taken off its front. -/
theorem opening?_write {rest : List Char} (h : rest.head?.any Text.isWord = false) :
    opening? ('/' :: '*' :: ' ' :: (marker ++ rest))
      = some ('/' :: '*' :: ' ' :: marker, rest) := by
  have hblanks : ∀ c ∈ [' '], Text.isBlank c = true := by
    intro c hc
    rw [List.mem_singleton.1 hc]
    decide
  exact opening?_eq_some_iff.2 ⟨[' '], hblanks, rfl, rfl, h⟩

/-- A written block is found as a whole, whatever follows it. -/
theorem locate_write {inside : List Char} (h : ¬ commentClose <:+: inside ++ ['*'])
    (hw : (inside ++ commentClose).head?.any Text.isWord = false) (rest : List Char) :
    locate ('/' :: '*' :: ' ' :: (marker ++ inside ++ commentClose) ++ rest)
      = some ⟨[], '/' :: '*' :: ' ' :: marker, inside, rest⟩ := by
  have hmark : Text.findMark commentClose (inside ++ commentClose ++ rest) = some (inside, rest) :=
    (Text.findMark_eq_some_iff (by decide)).2 ⟨rfl, h⟩
  have hcs : '/' :: '*' :: ' ' :: (marker ++ inside ++ commentClose) ++ rest
      = '/' :: '*' :: ' ' :: (marker ++ (inside ++ commentClose ++ rest)) := by simp
  have hword : (inside ++ commentClose ++ rest).head?.any Text.isWord = false := by
    rw [List.head?_append_of_ne_nil _ (by simp [commentClose]), hw]
  rw [locate, hcs, findOpening, opening?_write hword]
  simp only [bind, Option.bind_some, hmark]
  rfl

/-- A block that is a whole comment is found with the lines that were written in it. -/
theorem locate_of_write {strict : Bool} {D : DiagramSet} {block : String}
    (h : write strict D = .ok block) (hd : ∀ d ∈ D.values, d.Avoids commentClose) :
    ∃ parts, List.Forall₂ (fun d lines => d.lines strict = .ok lines) D.values parts ∧
      ∀ rest, locate (block.toList ++ rest)
        = some ⟨[], '/' :: '*' :: ' ' :: marker, writtenContent parts, rest⟩ := by
  obtain ⟨inside, hcomment, hclose⟩ := isComment_of_write h hd
  obtain ⟨parts, hparts, hblock⟩ := write_eq_ok h
  have hinside : inside = ' ' :: (marker ++ writtenContent parts) := by
    rw [hblock, List.cons.injEq, List.cons.injEq, ← List.cons_append] at hcomment
    exact (List.append_cancel_right hcomment.2.2).symm
  have hcontent : ¬ commentClose <:+: writtenContent parts ++ ['*'] := by
    intro hi
    refine hclose (hi.trans ?_)
    rw [hinside]
    exact ⟨' ' :: marker, [], by simp⟩
  have hword : (writtenContent parts ++ commentClose).head?.any Text.isWord = false := by
    rw [writtenContent, Text.join_cons [] (by simp), List.nil_append, List.cons_append,
      List.head?_cons]
    decide +kernel
  exact ⟨parts, hparts, fun rest => by rw [hblock, locate_write hcontent hword]⟩

/-- A written block is read as the diagrams that were written, whatever follows it; there is no
warning but one about another block that follows. -/
theorem readText_write {strict : Bool} {D : DiagramSet} {block : String}
    (h : write strict D = .ok block) (hd : ∀ d ∈ D.values, d.Legible)
    (hn : (D.values.map Diagram.name).Nodup) :
    ∃ ds' D', List.Forall₂ Diagram.Reread D.values ds' ∧ D'.items = ds'.map (fun d => (d.name, d)) ∧
      ∀ (text : String) (rest : List Char), text.toList = block.toList ++ rest →
        ∃ ws, readText text = .ok (some D', ws) ∧ (findOpening rest = none → ws = []) := by
  obtain ⟨parts, hparts, hlocate⟩ := locate_of_write h fun d hmem => (hd d hmem).avoids
  obtain ⟨ds', D', hds, hread, hitems⟩ := readContent_writtenContent hparts hd hn
    (Located.line ⟨[], '/' :: '*' :: ' ' :: marker, writtenContent parts, []⟩)
  refine ⟨ds', D', hds, hitems, fun text rest htext => ⟨warnings text.toList, ?_, fun hrest => ?_⟩⟩
  · exact readText_eq_ok.2 ⟨_, [], htext ▸ hlocate rest, hread, List.append_nil _⟩
  · simp only [warnings, htext, hlocate rest, hrest]

end Block

/-! ## Whole coordinates -/

/-- Whether a number is a whole one that is a number of double precision, too. -/
def Number.Whole (a : Number) : Prop :=
  ∃ n : Int, Binary64.Representable (n.natAbs * Binary64.unitsPerOne) ∧
    a.units? = some (n * Binary64.unitsPerOne)

/-- All whole numbers below `2 ^ 53` are numbers of double precision. -/
theorem Number.whole_of_natAbs_lt {a : Number} {n : Int}
    (h : a.units? = some (n * Binary64.unitsPerOne)) (hn : n.natAbs < 2 ^ 53) : a.Whole :=
  ⟨n, Binary64.representable_whole hn, h⟩

/-- A whole number is rounded to itself. -/
theorem Number.round_of_units {a : Number} {n : Int}
    (h : a.units? = some (n * Binary64.unitsPerOne)) : a.round = .ok n := by
  have hpos : (0 : Int) < Binary64.unitsPerOne := Int.natCast_pos.2 Binary64.unitsPerOne_pos
  cases a with
  | whole m =>
    have hmul : m * (Binary64.unitsPerOne : Int) = n * Binary64.unitsPerOne := Option.some.inj h
    rw [Number.round, Int.eq_of_mul_eq_mul_right (Int.ne_of_gt hpos) hmul]
  | real x =>
    cases x with
    | finite negative units hr =>
      have hsigned : Binary64.signed negative units = n * Binary64.unitsPerOne := Option.some.inj h
      have habs : units = n.natAbs * Binary64.unitsPerOne := by
        have hnat := congrArg Int.natAbs hsigned
        rw [Int.natAbs_mul, Int.natAbs_natCast] at hnat
        rw [← hnat, Binary64.signed]
        split <;> simp
      rw [Number.round, Binary64.round, habs, halfEven_mul _ Binary64.unitsPerOne_pos]
      refine congrArg _ (Int.eq_of_mul_eq_mul_right (Int.ne_of_gt hpos) ?_)
      rw [← hsigned, habs, Binary64.signed, Binary64.signed]
      split
      · rw [Int.natCast_mul, Int.neg_mul]
      · rw [Int.natCast_mul]
    | infinite negative => cases h
    | nan => cases h

/-- A whole number is read back with its value. -/
theorem Line.units?_wholeValue {n : Int}
    (h : Binary64.Representable (n.natAbs * Binary64.unitsPerOne)) :
    (Number.real (Line.wholeValue n)).units? = some (n * Binary64.unitsPerOne) := by
  rw [Line.wholeValue, Decimal.value_whole h, Binary64.units?_ofInt h]

/-- A whole number is read back as the same as every number of its size. -/
theorem Line.same_wholeValue {a : Number} {n : Int}
    (hn : Binary64.Representable (n.natAbs * Binary64.unitsPerOne))
    (ha : a.units? = some (n * Binary64.unitsPerOne)) :
    (Number.real (Line.wholeValue n)).same a = true := by
  rw [Number.same, ha, Line.units?_wholeValue hn]
  exact decide_eq_true rfl

/-- A whole number comes back the same when its digits are read. -/
theorem Number.Whole.same {a : Number} (h : a.Whole) {m : Int} (hm : a.round = .ok m) :
    (Number.real (Line.wholeValue m)).same a = true := by
  obtain ⟨n, hn, hunits⟩ := h
  rw [Number.round_of_units hunits] at hm
  cases hm
  exact Line.same_wholeValue hn hunits

/-- Whether an entry has no coordinates or two whole ones. -/
def Entry.Whole : Entry → Prop
  | .table _ (some x) (some y) => x.Whole ∧ y.Whole
  | .table _ none none => True
  | .table _ _ _ => False
  | .wildcard _ => True

/-- An entry with whole coordinates comes back as it is. -/
theorem Entry.Whole.same {e e' : Entry} (h : e.Whole) (hr : e.Reread e') : e'.same e = true := by
  cases hr with
  | wildcard schema => exact decide_eq_true rfl
  | @unplaced name x y hp =>
    cases x <;> cases y
    · simp [Entry.same, sameNumber?]
    · cases h
    · cases h
    · cases hp
  | placed hx hy =>
    simp [Entry.same, sameNumber?, h.1.same hx, h.2.same hy]

/-- An entry with whole coordinates or none can be written. -/
theorem Entry.Whole.exists_line {e : Entry} (h : e.Whole) : ∃ line, e.line false = .ok line := by
  cases e with
  | wildcard schema => exact ⟨_, rfl⟩
  | table name x y =>
    cases x with
    | none => exact ⟨_, rfl⟩
    | some x =>
      cases y with
      | none => cases h
      | some y =>
        obtain ⟨⟨m, -, hx⟩, n, -, hy⟩ := h
        exact ⟨_, Entry.line_of_round (Number.round_of_units hx) (Number.round_of_units hy)⟩

/-- Related lists are equal member by member for an equality that related members have. -/
theorem isEqv_of_forall₂ {α β γ : Type} {R : α → β → Prop} {r : γ → γ → Bool} {f : α → γ}
    {g : β → γ} {as : List α} {bs : List β} (h : List.Forall₂ R as bs)
    (hr : ∀ a ∈ as, ∀ b, R a b → r (g b) (f a) = true) :
    (bs.map g).isEqv (as.map f) r = true := by
  induction h with
  | nil => rfl
  | @cons a b as bs hab _ ih =>
    rw [List.map_cons, List.map_cons, List.isEqv, hr a List.mem_cons_self b hab,
      ih fun a ha => hr a (List.mem_cons_of_mem _ ha)]
    rfl

/-- A diagram comes back with the entries that its entries come back as. -/
theorem Diagram.Reread.same_map {d d' : Diagram} {f : Entry → Entry} (hr : d.Reread d')
    (h : ∀ e ∈ d.entries, ∀ e', e.Reread e' → e'.same (f e) = true) :
    d'.same ⟨d.name, d.entries.map f⟩ = true := by
  obtain ⟨hname, hentries⟩ := hr
  have heqv := isEqv_of_forall₂ (f := f) (g := id) (r := Entry.same) hentries h
  rw [List.map_id] at heqv
  rw [Diagram.same, hname, heqv]
  simp

/-- A diagram with whole coordinates comes back as it is. -/
theorem Diagram.Reread.same {d d' : Diagram} (hr : d.Reread d') (h : ∀ e ∈ d.entries, e.Whole) :
    d'.same d = true := by
  have hsame := hr.same_map (f := id) fun e he e' hee => (h e he).same hee
  rwa [List.map_id] at hsame

namespace Block

/-- Diagrams that can be written and told apart, with whole coordinates, come back from their block
exactly as they are. -/
theorem readText_write_whole {D : DiagramSet} (hk : ∀ item ∈ D.items, item.1 = item.2.name)
    (hd : ∀ d ∈ D.values, d.Legible) (hw : ∀ d ∈ D.values, ∀ e ∈ d.entries, e.Whole) :
    ∃ block D', write false D = .ok block ∧ readText block = .ok (some D', []) ∧
      D'.same D = true := by
  obtain ⟨block, hblock⟩ := exists_write fun d hmem e he => (hw d hmem e he).exists_line
  have hitems : D.items = D.values.map fun d => (d.name, d) := by
    rw [Registry.values, List.map_map]
    refine (List.map_id D.items).symm.trans (List.map_congr_left fun item hi => ?_)
    exact Prod.ext (hk item hi) rfl
  have hn : (D.values.map Diagram.name).Nodup := by
    have hnodup := D.nodup_keys
    rw [hitems, List.map_map] at hnodup
    exact hnodup
  obtain ⟨ds', D', hds, hitems', hread⟩ := readText_write hblock hd hn
  obtain ⟨ws, hread, hw'⟩ := hread block [] (List.append_nil _).symm
  rw [hw' rfl] at hread
  refine ⟨block, D', hblock, hread, ?_⟩
  rw [DiagramSet.same, hitems, hitems']
  refine isEqv_of_forall₂ hds fun d hmem d' hdd => ?_
  rw [hdd.same (hw d hmem), hdd.1]
  simp

/-- Diagrams with names that must be quoted, an empty name, and a table that is listed three
times. -/
def quotedDiagrams : List Diagram :=
  [⟨"main", [.table "s.t" (some (.whole 3)) (some (.whole (-40))), .wildcard "a \"b*",
    .table "s.t" none none, .table "s.t" (some (.whole 3)) (some (.whole (-40)))]⟩,
   ⟨"/* [x", [.table ".x.y/*" (some (.whole 0)) (some (.whole 9007199254740991))]⟩,
   ⟨"none", []⟩]

/-- The diagrams meet what the round trip asks for, and come back from their block. -/
theorem readText_write_quotedDiagrams :
    (∀ item ∈ (DiagramSet.ofDiagrams quotedDiagrams).items, item.1 = item.2.name) ∧
      (∀ d ∈ (DiagramSet.ofDiagrams quotedDiagrams).values, d.Legible) ∧
      (∀ d ∈ (DiagramSet.ofDiagrams quotedDiagrams).values, ∀ e ∈ d.entries, e.Whole) ∧
      ∃ block D', write false (.ofDiagrams quotedDiagrams) = .ok block ∧
        readText block = .ok (some D', []) ∧
        D'.same (.ofDiagrams quotedDiagrams) = true := by
  have hk : ∀ item ∈ (DiagramSet.ofDiagrams quotedDiagrams).items, item.1 = item.2.name := by
    decide +kernel
  have hvalues : (DiagramSet.ofDiagrams quotedDiagrams).values = quotedDiagrams := by
    decide +kernel
  have hd : ∀ d ∈ (DiagramSet.ofDiagrams quotedDiagrams).values, d.Legible := by
    decide +kernel
  have whole : ∀ n : Int, n.natAbs < 2 ^ 53 → (Number.whole n).Whole := fun n hn =>
    Number.whole_of_natAbs_lt rfl hn
  have hw : ∀ d ∈ (DiagramSet.ofDiagrams quotedDiagrams).values, ∀ e ∈ d.entries, e.Whole := by
    rw [hvalues]
    simp [quotedDiagrams, Entry.Whole, whole]
  exact ⟨hk, hd, hw, readText_write_whole hk hd hw⟩

end Block

end SchemaCanvas
