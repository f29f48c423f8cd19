import SchemaCanvas.Layout.Reader
import SchemaCanvas.Proofs.Layout.NameForm
import SchemaCanvas.Proofs.Layout.Written

/-!
# Written lines read back

Like what is written for a name (`Name.scan_write`), two whole numbers are taken off the front of a
text again (`Line.coordinates?_text`). So the line of an entry is read as the entry, with its
place rounded to whole pixels (`Entry.read_line`), and the header of a diagram as its name
(`Line.read_header`).
-/

namespace SchemaCanvas

/-! ## Blanks at the ends -/

/-- Nothing is dropped from a text whose first character is to be kept. -/
theorem Text.dropWhile_eq_self {p : Char → Bool} {cs : List Char}
    (h : cs.head?.all (!p ·) = true) : cs.dropWhile p = cs := by
  cases cs with
  | nil => rfl
  | cons c cs =>
    have hc : ¬ p c = true := by simpa using h
    rw [List.dropWhile_cons_of_neg hc]

/-- A text with no blank at its two ends. -/
def Text.Unpadded (cs : List Char) : Prop :=
  ∃ c inside d, cs = c :: (inside ++ [d]) ∧ Text.isBlank c = false ∧ Text.isBlank d = false

/-- A text with no blank at its ends loses nothing when blanks are taken off. -/
theorem Text.Unpadded.strip {cs : List Char} (h : Text.Unpadded cs) : Text.strip cs = cs := by
  obtain ⟨c, inside, d, rfl, hc, hd⟩ := h
  rw [Text.strip, Text.stripStart, Text.dropWhile_eq_self (by simp [hc]), Text.stripEnd,
    Text.dropWhile_eq_self (by simp [hd]), List.reverse_reverse]

/-- A blank before a text is stripped with the blanks of the text. -/
theorem Text.strip_cons {c : Char} (hc : Text.isBlank c = true) (cs : List Char) :
    Text.strip (c :: cs) = Text.strip cs := by
  rw [Text.strip, Text.stripStart, List.dropWhile_cons_of_pos hc]
  rfl

/-! ## Names -/

namespace Name

/-- A written name starts with a bare character or a quote. -/
theorem head?_write (name : List Char) :
    ∃ c cs, write name = c :: cs ∧ (isBare c = true ∨ c = '"') := by
  rw [write]
  split
  · next h =>
    obtain ⟨c, cs, rfl⟩ := List.exists_cons_of_ne_nil h.1
    exact ⟨c, cs, rfl, .inl (List.all_eq_true.1 h.2 c List.mem_cons_self)⟩
  · exact ⟨'"', _, rfl, .inr rfl⟩

/-- A written name ends with a bare character or a quote. -/
theorem getLast?_write (name : List Char) :
    ∃ cs c, write name = cs ++ [c] ∧ (isBare c = true ∨ c = '"') := by
  rw [write]
  split
  · next h =>
    have hlast := List.dropLast_append_getLast h.1
    exact ⟨_, _, hlast.symm, .inl (List.all_eq_true.1 h.2 _ (List.getLast_mem h.1))⟩
  · exact ⟨_, '"', rfl, .inr rfl⟩

/-- No character that a written name starts or ends with is a blank. -/
theorem isBlank_of_isBare {c : Char} (h : isBare c = true ∨ c = '"') : Text.isBlank c = false := by
  rcases h with h | rfl
  · simp only [isBare, Bool.not_eq_true', Bool.or_eq_false_iff] at h
    exact h.1.1.1.1.1
  · decide

end Name

/-! ## Numbers -/

namespace Line

/-- The number that a whole one is read back as. -/
def wholeValue (m : Int) : Binary64 :=
  Decimal.value (decide (m < 0)) m.natAbs 0

/-- Digits are taken off the front of a text as a number, up to what is neither a digit nor a
point. -/
theorem magnitude?_digits (negative : Bool) (n : Nat) {rest : List Char}
    (h : rest.head?.all (fun c => !Text.isDigit c && c ≠ '.') = true) :
    magnitude? negative (Nat.toDigits 10 n ++ rest) = some (Decimal.value negative n 0, rest) := by
  have hall : ∀ c ∈ Nat.toDigits 10 n, Text.isDigit c = true :=
    fun c hc => Text.isDigit_of_mem_toDigits hc
  have hrest : ∀ c ∈ rest.head?, Text.isDigit c = false ∧ c ≠ '.' := by
    intro c hc
    rw [Option.mem_def.1 hc] at h
    simpa using h
  have hstop : ∀ c ∈ rest.head?, Text.isDigit c = false := fun c hc => (hrest c hc).1
  rw [magnitude?, Text.takeWhile_run hall hstop, Text.dropWhile_run hall hstop,
    if_neg Nat.toDigits_ne_nil, Text.digitsValue_toDigits]
  cases rest with
  | nil => rfl
  | cons d rest =>
    split
    · next he => exact absurd (List.cons.inj he).1 (hrest d rfl).2
    · rfl

/-- A whole number is taken off the front of a text, up to what is neither a digit nor a point. -/
theorem number?_repr (m : Int) {rest : List Char}
    (h : rest.head?.all (fun c => !Text.isDigit c && c ≠ '.') = true) :
    number? (m.repr.toList ++ rest) = some (wholeValue m, rest) := by
  rw [toList_repr, wholeValue]
  by_cases hm : m < 0
  · rw [if_pos hm, decide_eq_true hm]
    exact magnitude?_digits true _ h
  · rw [if_neg hm, decide_eq_false hm, List.nil_append]
    obtain ⟨c, cs, hcs⟩ :=
      List.exists_cons_of_ne_nil (Nat.toDigits_ne_nil (n := m.natAbs) (b := 10))
    have hdigit := Text.isDigit_of_mem_toDigits (c := c) (n := m.natAbs) (by rw [hcs]; simp)
    have hc : c ≠ '-' := by
      rintro rfl
      exact absurd hdigit (by decide)
    have hmagnitude := magnitude?_digits false m.natAbs h
    rw [hcs, List.cons_append] at hmagnitude ⊢
    rw [number?, hmagnitude]
    exact fun _ he => hc (List.cons.inj he).1

/-- The text of a whole number has no blank in it. -/
theorem isBlank_of_mem_repr {m : Int} {c : Char} (h : c ∈ m.repr.toList) :
    Text.isBlank c = false := by
  rcases mem_toList_repr h with rfl | h
  · decide
  · have hc := Text.toNat_of_isDigit h
    refine Bool.eq_false_iff.2 fun hb => ?_
    simp [Text.isBlank, Text.Ranges.holds, Text.blankRanges] at hb
    omega

/-- Two whole numbers with a blank between them are read as coordinates. -/
theorem coordinates?_text (m n : Int) :
    coordinates? (m.repr.toList ++ ' ' :: n.repr.toList) = some (wholeValue m, wholeValue n) := by
  have hm : number? (m.repr.toList ++ ' ' :: n.repr.toList)
      = some (wholeValue m, ' ' :: n.repr.toList) :=
    number?_repr m (by rw [List.head?_cons]; decide)
  have hn : number? (n.repr.toList ++ []) = some (wholeValue n, []) := number?_repr n rfl
  rw [List.append_nil] at hn
  have hdrop : (' ' :: n.repr.toList).dropWhile Text.isBlank = n.repr.toList := by
    rw [List.dropWhile_cons_of_pos (by decide)]
    refine Text.dropWhile_eq_self ?_
    cases hr : n.repr.toList with
    | nil => rfl
    | cons c cs => simp [isBlank_of_mem_repr (m := n) (c := c) (by rw [hr]; simp)]
  have hblank : ¬ (' ' :: n.repr.toList).head?.all (!Text.isBlank ·) = true := by
    rw [List.head?_cons]
    decide
  simp only [coordinates?, bind, hm, Option.bind_some, if_neg hblank, hdrop, hn, if_pos]

/-- A whole number is written with at least one character. -/
theorem toList_repr_ne_nil (m : Int) : m.repr.toList ≠ [] := by
  rw [toList_repr]
  exact List.append_ne_nil_of_right_ne_nil _ Nat.toDigits_ne_nil

/-- What is written behind the names of an entry ends in a digit. -/
theorem getLast_coordinatesText (m n : Int) :
    ∃ inside d, coordinatesText m n = ' ' :: (inside ++ [d]) ∧ Text.isBlank d = false := by
  have hn := List.dropLast_append_getLast (toList_repr_ne_nil n)
  refine ⟨m.repr.toList ++ ' ' :: n.repr.toList.dropLast, _, ?_,
    isBlank_of_mem_repr (List.getLast_mem (toList_repr_ne_nil n))⟩
  rw [coordinatesText, List.append_assoc, List.cons_append, hn]

/-- Written coordinates have no blank at their ends. -/
theorem unpadded_coordinates (m n : Int) :
    Text.Unpadded (m.repr.toList ++ ' ' :: n.repr.toList) := by
  obtain ⟨c, cs, hc⟩ := List.exists_cons_of_ne_nil (toList_repr_ne_nil m)
  have hn := List.dropLast_append_getLast (toList_repr_ne_nil n)
  refine ⟨c, cs ++ ' ' :: n.repr.toList.dropLast, _, ?_,
    isBlank_of_mem_repr (m := m) (by simp [hc]),
    isBlank_of_mem_repr (List.getLast_mem (toList_repr_ne_nil n))⟩
  rw [hc, List.cons_append, List.append_assoc, List.cons_append, hn]

/-! ## Parts of a line -/

/-- A line that starts with a name opens no diagram. -/
theorem header?_write (name rest : List Char) : header? (Name.write name ++ rest) = none := by
  obtain ⟨c, cs, hw, hc⟩ := Name.head?_write name
  have hbracket : c ≠ '[' := by
    rintro rfl
    exact absurd hc (by decide)
  rw [hw, List.cons_append, header?]
  exact fun _ he => hbracket (List.cons.inj he).1

/-- The coordinates behind the names of an entry are read without the blank before them. -/
theorem trailing?_coordinatesText (m n : Int) :
    trailing? (coordinatesText m n) = some (m.repr.toList ++ ' ' :: n.repr.toList) := by
  have hblank : (coordinatesText m n).head?.any Text.isBlank = true := by
    rw [coordinatesText, List.head?_cons]
    decide
  rw [trailing?, if_neg (by simp [coordinatesText]), if_pos hblank, coordinatesText,
    Text.strip_cons (by decide), (unpadded_coordinates m n).strip]

/-- A written wildcard is read as a schema and no table, with nothing behind them. -/
theorem parts?_wildcard (schema : List Char) :
    parts? (Name.write schema ++ ['.', '*']) = some (Name.write schema, none, []) := by
  have hscan : Name.scan (Name.write schema ++ ['.', '*']) = some (Name.write schema, ['.', '*']) :=
    Name.scan_write schema rfl
  simp [parts?, hscan, target?, trailing?]

/-- The parts of a line with the names of a schema and a table. -/
theorem parts?_table (schema table : List Char) {rest trailing : List Char} (he : Name.Ends rest)
    (ht : trailing? rest = some trailing) :
    parts? (Name.write schema ++ '.' :: (Name.write table ++ rest))
      = some (Name.write schema, some (Name.write table), trailing) := by
  have hschema : Name.scan (Name.write schema ++ '.' :: (Name.write table ++ rest))
      = some (Name.write schema, '.' :: (Name.write table ++ rest)) :=
    Name.scan_write schema rfl
  have htarget : target? (Name.write table ++ rest) = some (some (Name.write table), rest) := by
    obtain ⟨c, cs, hw, hc⟩ := Name.head?_write table
    have hstar : c ≠ '*' := by
      rintro rfl
      exact absurd hc (by decide)
    have htable := Name.scan_write table he
    rw [hw, List.cons_append] at htable ⊢
    rw [target?, htable]
    · rfl
    · exact fun _ he => hstar (List.cons.inj he).1
  simp [parts?, hschema, htarget, ht]

end Line

/-! ## Lines -/

/-- Whether the name that an entry gives to a table is one of a schema and a table. -/
def Entry.Qualified : Entry → Prop
  | .wildcard _ => True
  | .table name _ _ => '.' ∈ name.toList

/-- How an entry comes back that is written and read: coordinates are whole numbers afterwards, and
a lone one is lost. -/
inductive Entry.Reread : Entry → Entry → Prop
  | wildcard (schema : String) : Reread (.wildcard schema) (.wildcard schema)
  | unplaced {name : String} {x y : Option Number}
    (h : (Entry.table name x y).position? = none) : Reread (.table name x y) (.table name none none)
  | placed {name : String} {x y : Number} {m n : Int} (hx : x.round = .ok m)
    (hy : y.round = .ok n) :
    Reread (.table name (some x) (some y))
      (.table name (some (.real (Line.wholeValue m))) (some (.real (Line.wholeValue n))))

/-- The names of an entry are written without a blank at their ends. -/
theorem Entry.unpadded_written (e : Entry) : Text.Unpadded e.written := by
  cases e with
  | wildcard schema =>
    obtain ⟨c, cs, hw, hc⟩ := Name.head?_write schema.toList
    refine ⟨c, cs ++ ['.'], '*', ?_, Name.isBlank_of_isBare hc, by decide⟩
    rw [Entry.written, hw]
    simp
  | table name x y =>
    obtain ⟨c, cs, hw, hc⟩ := Name.head?_write (Text.cutAt '.' name.toList).1
    obtain ⟨ds, d, hw', hd⟩ := Name.getLast?_write (Text.cutAt '.' name.toList).2
    refine ⟨c, cs ++ '.' :: ds, d, ?_, Name.isBlank_of_isBare hc, Name.isBlank_of_isBare hd⟩
    rw [Entry.written, Name.writeQualified, hw, hw']
    simp

/-- The line of an entry has no blank at its ends. -/
theorem Entry.unpadded_line {strict : Bool} {e : Entry} {line : String}
    (h : e.line strict = .ok line) : Text.Unpadded line.toList := by
  rcases Entry.line_eq_ok h with ⟨hline, -⟩ | ⟨name, x, y, m, n, -, -, -, hline⟩
  · rw [hline]
    exact e.unpadded_written
  · obtain ⟨c, inside, d, hwritten, hc, -⟩ := e.unpadded_written
    obtain ⟨inside', d', hcoordinates, hd'⟩ := Line.getLast_coordinatesText m n
    refine ⟨c, inside ++ d :: ' ' :: inside', d', ?_, hc, hd'⟩
    rw [hline, hwritten, hcoordinates]
    simp

/-- The line of an entry is read as the entry. -/
theorem Entry.read_line {strict : Bool} {e : Entry} {line : String} (h : e.line strict = .ok line)
    (hq : e.Qualified) :
    ∃ e', e.Reread e' ∧ Line.read (Text.strip line.toList) = .entry (.ok e') := by
  rw [(Entry.unpadded_line h).strip]
  have read_table : ∀ {name : String} {rest trailing : List Char}, '.' ∈ name.toList →
      Name.Ends rest → Line.trailing? rest = some trailing →
      Line.read (Name.writeQualified name.toList ++ rest)
        = .entry (Line.entryOfParts (Name.write (Text.cutAt '.' name.toList).1)
            (some (Name.write (Text.cutAt '.' name.toList).2)) trailing) := by
    intro name rest trailing _ he ht
    have hparts :=
      Line.parts?_table (Text.cutAt '.' name.toList).1 (Text.cutAt '.' name.toList).2 he ht
    rw [Line.read, Name.writeQualified, List.append_assoc, List.cons_append, Line.header?_write,
      hparts]
  have name_eq : ∀ {name : String}, '.' ∈ name.toList →
      String.ofList (Name.read (Name.write (Text.cutAt '.' name.toList).1) ++
        '.' :: Name.read (Name.write (Text.cutAt '.' name.toList).2)) = name := by
    intro name hp
    rw [Name.read_write, Name.read_write, Text.cutAt_append hp, String.ofList_toList]
  rcases Entry.line_eq_ok h with ⟨hline, hplace⟩ | ⟨name, x, y, m, n, rfl, hx, hy, hline⟩
  · cases e with
    | wildcard schema =>
      refine ⟨_, .wildcard schema, ?_⟩
      rw [hline, Entry.written, Line.read, Line.header?_write, Line.parts?_wildcard]
      simp [Line.entryOfParts, Name.read_write]
    | table name x y =>
      refine ⟨_, .unplaced hplace, ?_⟩
      have hends : Name.Ends [] := rfl
      rw [hline, Entry.written, ← List.append_nil (Name.writeQualified _),
        read_table hq hends rfl, Line.entryOfParts]
      simp only [if_pos, name_eq hq]
  · refine ⟨_, .placed hx hy, ?_⟩
    have hends : Name.Ends (coordinatesText m n) := rfl
    have hne : m.repr.toList ++ ' ' :: n.repr.toList ≠ [] := by simp
    rw [hline, Entry.written, read_table hq hends (Line.trailing?_coordinatesText m n),
      Line.entryOfParts]
    simp only [if_neg hne, name_eq hq, Line.coordinates?_text]

/-- The header of a diagram is read as the name of the diagram. -/
theorem Line.read_header {name : String} (hne : name ≠ "")
    (hstrip : Text.strip name.toList = name.toList) (hb : ']' ∉ name.toList) :
    Line.read (Text.strip ("[" ++ name ++ "]").toList) = .header name := by
  have hline : ("[" ++ name ++ "]").toList = '[' :: (name.toList ++ [']']) := by simp
  have hunpadded : Text.Unpadded ('[' :: (name.toList ++ [']'])) :=
    ⟨'[', _, ']', rfl, by decide, by decide⟩
  have hall : ∀ c ∈ name.toList, decide (c ≠ ']') = true := by
    intro c hc
    exact decide_eq_true fun he => hb (he ▸ hc)
  have hstop : ∀ c ∈ [']'].head?, decide (c ≠ ']') = false := by simp
  have hname : name.toList ≠ [] := fun h => hne (String.toList_eq_nil_iff.1 h)
  have hheader : Line.header? ('[' :: (name.toList ++ [']'])) = some name.toList := by
    simp only [Line.header?, Text.takeWhile_run hall hstop, Text.dropWhile_run hall hstop]
    rw [if_pos ⟨hname, trivial⟩, hstrip]
  rw [hline, hunpadded.strip, Line.read, hheader]
  exact congrArg Line.header String.ofList_toList

end SchemaCanvas
