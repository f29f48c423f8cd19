import SchemaCanvas.Layout.Reader

/-!
# Reading a block line by line

`Progress.Stepped` has a case for each thing that a line can do, and a line does nothing else
(`Progress.stepped`). The lines of two parts are read one part after the other
(`Progress.steps_append`). A text has diagrams when it has a block all of whose lines can be read
(`Block.readText_eq_ok`, `Block.readContent_eq_ok`).
-/

namespace SchemaCanvas.Block

namespace Progress

variable {p q : Progress} {text : List Char} {texts : List (List Char)} {line : Int}

/-- What a line does, given by its text without blanks at its ends and its number. -/
inductive Stepped (p : Progress) (text : List Char) (line : Int) :
    Except StructuralError Progress → Prop
  | ignored (h : Line.read text = .ignored) : Stepped p text line (.ok p)
  | duplicate {name : String} (h : Line.read text = .header name)
    (hname : p.diagrams.contains name = true) :
    Stepped p text line (.error (.duplicateDiagram name line))
  | opened {name : String} (h : Line.read text = .header name)
    (hname : ¬ p.diagrams.contains name = true) :
    Stepped p text line (.ok ⟨p.diagrams, some ⟨name, []⟩, p.warnings⟩)
  | homeless {entry : Except EntryError Entry} (h : Line.read text = .entry entry)
    (hcurrent : p.current = none) :
    Stepped p text line (.ok (p.warn
      ("Entry \"" ++ String.ofList text ++ "\" appears before any [diagram] header") line))
  | kept {entry : Entry} {d : Diagram} (h : Line.read text = .entry (.ok entry))
    (hcurrent : p.current = some d) :
    Stepped p text line (.ok { p with current := some { d with entries := d.entries ++ [entry] } })
  | malformed {cause : EntryError} {d : Diagram} (h : Line.read text = .entry (.error cause))
    (hcurrent : p.current = some d) : Stepped p text line (.ok (p.warn cause.message line))

/-- Every line does one of the things that a line can do. -/
theorem stepped (p : Progress) (text : List Char) (line : Int) :
    Stepped p text line (p.step text line) := by
  unfold step
  split
  · next hread => exact .ignored hread
  · next name hread =>
    split
    · next hname => exact .duplicate hread hname
    · next hname => exact .opened hread hname
  · next entry hread =>
    split
    · next hcurrent => exact .homeless hread hcurrent
    · next d hcurrent =>
      split
      · exact .kept hread hcurrent
      · exact .malformed hread hcurrent

/-- An empty line says nothing. -/
theorem step_nil (p : Progress) (line : Int) : p.step (Text.strip []) line = .ok p :=
  rfl

/-- When a line can be read, the reading goes on from it with the next number. -/
theorem steps_cons_of_ok (h : p.step (Text.strip text) line = .ok q) (texts : List (List Char)) :
    p.steps (text :: texts) line = q.steps texts (line + 1) := by
  rw [steps, h]

/-- The lines of two parts are read one part after the other. -/
theorem steps_append (p : Progress) (texts more : List (List Char)) (line : Int) :
    p.steps (texts ++ more) line
      = p.steps texts line >>= fun q => q.steps more (line + texts.length) := by
  induction texts generalizing p line with
  | nil =>
    show p.steps more line = p.steps more (line + 0)
    rw [Int.add_zero]
  | cons text texts ih =>
    have hlines : line + 1 + (texts.length : Int) = line + ((text :: texts).length : Nat) := by
      rw [List.length_cons]
      omega
    rw [List.cons_append, steps, steps]
    cases p.step (Text.strip text) line with
    | error cause => rfl
    | ok q =>
      dsimp only
      rw [ih q, hlines]

/-- When some lines can be read, the reading goes on from them with the number after the last
one. -/
theorem steps_append_of_ok (h : p.steps texts line = .ok q) (more : List (List Char)) :
    p.steps (texts ++ more) line = q.steps more (line + texts.length) := by
  rw [steps_append, h]
  rfl

/-- When some lines stop the reading, further ones do not matter. -/
theorem steps_append_of_error {cause : StructuralError} (h : p.steps texts line = .error cause)
    (more : List (List Char)) : p.steps (texts ++ more) line = .error cause := by
  rw [steps_append, h]
  rfl

end Progress

/-- A content is read exactly if all its lines are, from the start on. -/
theorem readContent_eq_ok {content : List Char} {line : Int} {diagrams : DiagramSet}
    {ws : List Warning} : readContent content line = .ok (diagrams, ws) ↔
      ∃ p, Progress.start.steps (Text.lines content) line = .ok p ∧ p.diagrams = diagrams ∧
        p.warnings = ws := by
  rw [readContent]
  cases Progress.start.steps (Text.lines content) line with
  | error cause => simp [Except.map]
  | ok p => simp [Except.map]

/-- A text gives diagrams exactly if it has a block whose content does; the warnings about further
blocks come first. -/
theorem readText_eq_ok {text : String} {diagrams : DiagramSet} {ws : List Warning} :
    readText text = .ok (some diagrams, ws) ↔
      ∃ l more, locate text.toList = some l ∧
        readContent l.content l.line = .ok (diagrams, more) ∧
        warnings text.toList ++ more = ws := by
  simp only [readText]
  cases locate text.toList with
  | none => simp
  | some l =>
    cases h : readContent l.content l.line with
    | error cause => simp [h]
    | ok read =>
      obtain ⟨found, more⟩ := read
      simp [h, and_assoc]

end SchemaCanvas.Block
