import SchemaCanvas.Proofs.Layout.Warned

/-!
# Lines that are not taken

A line that is neither a header nor an entry that is taken leaves the reading of a block where it
is, but for a warning about the line itself (`Progress.step_idle`). From there on the lines behind
it are read as they would be without it, with numbers one higher (`Progress.steps_behind`). So such
a line disturbs nothing else, wherever it is put (`Block.readContent_insert`).
-/

namespace SchemaCanvas

/-- The same warning about the next line. -/
def Warning.next (w : Warning) : Warning :=
  { w with line := w.line.map (· + 1) }

/-- Whether a line of a block is neither a header nor an entry that is taken. -/
def Line.Idle (text : List Char) : Prop :=
  (∀ name, read text ≠ .header name) ∧ ∀ entry, read text ≠ .entry (.ok entry)

instance (text : List Char) : Decidable (Line.Idle text) :=
  match h : Line.read text with
  | .ignored => .isTrue ⟨fun _ => by rw [h]; nofun, fun _ => by rw [h]; nofun⟩
  | .header name => .isFalse fun hidle => hidle.1 name h
  | .entry (.ok entry) => .isFalse fun hidle => hidle.2 entry h
  | .entry (.error _) => .isTrue ⟨fun _ => by rw [h]; nofun, fun _ => by rw [h]; nofun⟩

/-- A warning about an entry that is not taken has the number of its line. -/
theorem Line.Refused.line_eq {text : List Char} {n : Int} {w : Warning} (h : Refused text n w) :
    w.line = some n := by
  cases h <;> rfl

/-- A line may be put among the lines of a text. -/
theorem Text.lines_insert {cs line : List Char} {before after : List (List Char)}
    (h : lines cs = before ++ after) (hline : '\n' ∉ line) :
    lines (join '\n' (before ++ line :: after)) = before ++ line :: after := by
  have hold : ∀ text ∈ before ++ after, '\n' ∉ text := fun text htext =>
    not_mem_of_mem_splitOn (h ▸ htext)
  refine splitOn_join (by simp) fun text htext => ?_
  rcases List.mem_append.1 htext with hbefore | htext
  · exact hold text (List.mem_append_left _ hbefore)
  rcases List.mem_cons.1 htext with rfl | hafter
  · exact hline
  · exact hold text (List.mem_append_right _ hafter)

namespace Block

namespace Progress

/-! ## The lines before it -/

/-- The warnings of a reading from the start are about the lines that have been read. -/
theorem lines_steps_start {texts : List (List Char)} {line : Int} {q : Progress}
    (h : start.steps texts line = .ok q) :
    ∀ w ∈ q.warnings, ∃ n, w.line = some n ∧ n < line + texts.length := by
  have hreads := steps_reads start texts line
  rw [h] at hreads
  cases hreads with
  | @read _ ws hq hws =>
    intro w hw
    rw [hq] at hw
    obtain ⟨i, text, hi, hrefused⟩ := hws w hw
    have hbound := (List.getElem?_eq_some_iff.1 hi).1
    exact ⟨line + i, hrefused.line_eq, by omega⟩

/-- A reading from the start that stops does so at one of the lines. -/
theorem line_steps_start {texts : List (List Char)} {line : Int} {cause : StructuralError}
    (h : start.steps texts line = .error cause) :
    ∃ name n, cause = .duplicateDiagram name n ∧ n < line + texts.length := by
  have hreads := steps_reads start texts line
  rw [h] at hreads
  cases hreads with
  | @stopped i text name hi _ =>
    have hbound := (List.getElem?_eq_some_iff.1 hi).1
    exact ⟨name, line + i, rfl, by omega⟩

/-! ## The line itself -/

/-- An idle line gives at most a warning. -/
theorem step_idle {text : List Char} (h : Line.Idle text) (p : Progress) (line : Int) :
    ∃ own : List Warning, own.length ≤ 1 ∧ (∀ w ∈ own, w.line = some line) ∧
      p.step text line = .ok { p with warnings := p.warnings ++ own } := by
  have hwarn : ∀ message, ∃ own : List Warning, own.length ≤ 1 ∧
      (∀ w ∈ own, w.line = some line) ∧
        .ok (p.warn message line)
          = (.ok { p with warnings := p.warnings ++ own } : Except StructuralError Progress) :=
    fun message => ⟨[⟨.syntactic, message, some line⟩], Nat.le_refl 1,
      fun w hw => by rw [List.mem_singleton.1 hw], rfl⟩
  have hstep := p.stepped text line
  generalize p.step text line = x at hstep ⊢
  cases hstep with
  | ignored => exact ⟨[], Nat.zero_le 1, nofun, by rw [List.append_nil]⟩
  | duplicate hread | opened hread => exact absurd hread (h.1 _)
  | homeless => exact hwarn _
  | kept hread => exact absurd hread (h.2 _)
  | malformed => exact hwarn _

/-! ## The lines behind it -/

/-- What becomes of two readings that differ in their warnings `ws` and `vs` only, when both read
the same lines, and each line has the next number in the second reading. The lines have at least the
number `n` in the first one. -/
inductive Behind (n : Int) (ws vs : List Warning) :
    Except StructuralError Progress → Except StructuralError Progress → Prop
  | stopped {name : String} {line : Int} (h : n ≤ line) :
    Behind n ws vs (.error (.duplicateDiagram name line))
      (.error (.duplicateDiagram name (line + 1)))
  | read {finished : DiagramSet} {current : Option Diagram} {more : List Warning}
    (h : ∀ w ∈ more, ∃ line, w.line = some line ∧ n ≤ line) :
    Behind n ws vs (.ok ⟨finished, current, ws ++ more⟩)
      (.ok ⟨finished, current, vs ++ more.map Warning.next⟩)

variable {n : Int} {ws vs : List Warning}

/-- Readings that do nothing but go on with the same diagrams still differ in their warnings
only. -/
theorem behind_silent (n : Int) (ws vs : List Warning) (finished : DiagramSet)
    (current : Option Diagram) :
    Behind n ws vs (.ok ⟨finished, current, ws⟩) (.ok ⟨finished, current, vs⟩) := by
  have h := @Behind.read n ws vs finished current [] nofun
  rwa [List.append_nil, List.map_nil, List.append_nil] at h

/-- A warning about a line comes in both readings, with the next number in the second one. -/
theorem behind_warn {line : Int} (h : n ≤ line) (ws vs : List Warning) (finished : DiagramSet)
    (current : Option Diagram) (message : String) :
    Behind n ws vs (.ok (warn ⟨finished, current, ws⟩ message line))
      (.ok (warn ⟨finished, current, vs⟩ message (line + 1))) :=
  .read fun w hw => ⟨line, by rw [List.mem_singleton.1 hw], h⟩

/-- What a line does to the diagrams does not depend on its number or on the warnings before. -/
theorem step_behind {line : Int} (h : n ≤ line) (ws vs : List Warning) (finished : DiagramSet)
    (current : Option Diagram) (text : List Char) :
    Behind n ws vs (step ⟨finished, current, ws⟩ text line)
      (step ⟨finished, current, vs⟩ text (line + 1)) := by
  simp only [step]
  split
  · exact behind_silent ..
  · next name _ =>
    have hdiagrams : diagrams ⟨finished, current, vs⟩ = diagrams ⟨finished, current, ws⟩ := rfl
    rw [hdiagrams]
    split
    · exact .stopped h
    · exact behind_silent ..
  · split
    · exact behind_warn h ..
    · split
      · exact behind_silent ..
      · exact behind_warn h ..

/-- Warnings of both readings may be counted among those before. -/
theorem Behind.of_append {more : List Warning} {x y : Except StructuralError Progress}
    (h : Behind n (ws ++ more) (vs ++ more.map Warning.next) x y)
    (hmore : ∀ w ∈ more, ∃ line, w.line = some line ∧ n ≤ line) : Behind n ws vs x y := by
  cases h with
  | stopped h => exact .stopped h
  | read h =>
    rw [List.append_assoc, List.append_assoc, ← List.map_append]
    exact .read fun w hw => (List.mem_append.1 hw).elim (hmore w) (h w)

/-- Lines that are read one line further down give the same diagrams and the same warnings about the
next lines. -/
theorem steps_behind {line : Int} (h : n ≤ line) (ws vs : List Warning) (finished : DiagramSet)
    (current : Option Diagram) (texts : List (List Char)) :
    Behind n ws vs (steps ⟨finished, current, ws⟩ texts line)
      (steps ⟨finished, current, vs⟩ texts (line + 1)) := by
  induction texts generalizing finished current ws vs line with
  | nil => exact behind_silent ..
  | cons text texts ih =>
    have hstep := step_behind h ws vs finished current (Text.strip text)
    rw [steps, steps]
    generalize step _ (Text.strip text) line = x at hstep ⊢
    generalize step _ (Text.strip text) (line + 1) = y at hstep ⊢
    cases hstep with
    | stopped h => exact .stopped h
    | read hmore =>
      -- Both readings go on with the same diagrams; the new warnings count among those before.
      exact (ih (by omega) ..).of_append hmore

end Progress

/-! ## The whole content -/

/-- What one more line in a content changes, which gets the number `n`: nothing but the numbers of
the lines behind it, and there may be a warning about it. -/
inductive OneMore (n : Int) : Except StructuralError (DiagramSet × List Warning) →
    Except StructuralError (DiagramSet × List Warning) → Prop
  /-- A diagram before the line has been declared twice. -/
  | stoppedBefore {name : String} {line : Int} (h : line < n) :
    OneMore n (.error (.duplicateDiagram name line)) (.error (.duplicateDiagram name line))
  /-- A diagram behind the line has been declared twice. -/
  | stoppedBehind {name : String} {line : Int} (h : n ≤ line) :
    OneMore n (.error (.duplicateDiagram name line)) (.error (.duplicateDiagram name (line + 1)))
  | read {diagrams : DiagramSet} {earlier own later : List Warning}
    (hearlier : ∀ w ∈ earlier, ∃ line, w.line = some line ∧ line < n)
    (hlater : ∀ w ∈ later, ∃ line, w.line = some line ∧ n ≤ line)
    (hlength : own.length ≤ 1) (hown : ∀ w ∈ own, w.line = some n) :
    OneMore n (.ok (diagrams, earlier ++ later))
      (.ok (diagrams, earlier ++ own ++ later.map Warning.next))

/-- What the readings make of the diagrams and warnings differs by one more line, when at most one
warning is about that line and all earlier ones are about lines before it. -/
theorem OneMore.of_behind {n : Int} {earlier own : List Warning}
    {x y : Except StructuralError Progress}
    (h : Progress.Behind n earlier (earlier ++ own) x y)
    (hearlier : ∀ w ∈ earlier, ∃ line, w.line = some line ∧ line < n)
    (hlength : own.length ≤ 1) (hown : ∀ w ∈ own, w.line = some n) :
    OneMore n (x.map fun p => (p.diagrams, p.warnings))
      (y.map fun p => (p.diagrams, p.warnings)) := by
  cases h with
  | stopped h => exact .stoppedBehind h
  | read hlater => exact .read hearlier hlater hlength hown

/-- **A line that is not taken disturbs nothing else.** -/
theorem readContent_insert {content line : List Char} {before after : List (List Char)}
    (first : Int) (hlines : Text.lines content = before ++ after) (hline : '\n' ∉ line)
    (hidle : Line.Idle (Text.strip line)) :
    OneMore (first + before.length) (readContent content first)
      (readContent (Text.join '\n' (before ++ line :: after)) first) := by
  rw [readContent, readContent, hlines, Text.lines_insert hlines hline]
  cases hbefore : Progress.start.steps before first with
  | error cause =>
    obtain ⟨name, n, rfl, hn⟩ := Progress.line_steps_start hbefore
    rw [Progress.steps_append_of_error hbefore, Progress.steps_append_of_error hbefore]
    exact .stoppedBefore hn
  | ok p =>
    obtain ⟨own, hlength, hown, hstep⟩ := Progress.step_idle hidle p (first + before.length)
    rw [Progress.steps_append_of_ok hbefore, Progress.steps_append_of_ok hbefore,
      Progress.steps_cons_of_ok hstep]
    exact .of_behind (Progress.steps_behind (Int.le_refl _) ..)
      (Progress.lines_steps_start hbefore) hlength hown

/-- A content with an entry before any header and a wrong entry in the last line. -/
def unevenContent : List Char :=
  "s.a\n[main]\ns.b left".toList

/-- Another wrong entry between the first two lines is reported, and the last line has moved. -/
theorem unevenContent_insert :
    readContent unevenContent 7
        = .ok (.ofDiagrams [⟨"main", []⟩],
            [⟨.syntactic, "Entry \"s.a\" appears before any [diagram] header", some 7⟩,
              ⟨.syntactic, "Invalid coordinates for \"s.b\": expected \"x y\"", some 9⟩]) ∧
      readContent "s.a\ns.c 1\n[main]\ns.b left".toList 7
        = .ok (.ofDiagrams [⟨"main", []⟩],
            [⟨.syntactic, "Entry \"s.a\" appears before any [diagram] header", some 7⟩,
              ⟨.syntactic, "Entry \"s.c 1\" appears before any [diagram] header", some 8⟩,
              ⟨.syntactic, "Invalid coordinates for \"s.b\": expected \"x y\"", some 10⟩]) ∧
      OneMore 8 (readContent unevenContent 7)
        (readContent "s.a\ns.c 1\n[main]\ns.b left".toList 7) := by
  have hlines : Text.lines unevenContent
      = ["s.a".toList] ++ ["[main]".toList, "s.b left".toList] := by
    decide
  have hline : '\n' ∉ "s.c 1".toList := by decide
  have hjoin : Text.join '\n' (["s.a".toList] ++ "s.c 1".toList ::
      ["[main]".toList, "s.b left".toList]) = "s.a\ns.c 1\n[main]\ns.b left".toList := by
    decide
  have hinserted := readContent_insert 7 hlines hline (by decide +kernel)
  rw [hjoin] at hinserted
  exact ⟨by decide +kernel, by decide +kernel, hinserted⟩

end Block

end SchemaCanvas
