import SchemaCanvas.Proofs.Layout.Names
import SchemaCanvas.Proofs.Text.LineNumber

/-!
# Warnings about a block have the lines of the file

The lines of a block are numbered as lines of the file: a line of the content is a piece of the line
of the file with its number (`Block.exists_line`). Reading one line gives at most a warning about
this line, with its number (`Progress.Stepped.reads`), and so does reading one line after another
(`Progress.steps_reads`). The warning about a second block has the line where the next opening after
the first block stands (`Block.further_warnings`). So every warning about a block leads to the line
of the file that it is about (`Block.readText_lines`).
-/

namespace SchemaCanvas

/-- The warning about a line of a block that looks like an entry and is not taken, when the line has
the number `n`. -/
inductive Line.Refused (text : List Char) (n : Int) : Warning → Prop
  /-- No diagram has been opened. -/
  | homeless {entry : Except EntryError Entry} (h : Line.read text = .entry entry) :
    Refused text n ⟨.syntactic,
      "Entry \"" ++ String.ofList text ++ "\" appears before any [diagram] header", some n⟩
  /-- The entry itself is wrong. -/
  | malformed {cause : EntryError} (h : Line.read text = .entry (.error cause)) :
    Refused text n ⟨.syntactic, cause.message, some n⟩

namespace Block

/-! ## Lines of a block -/

namespace Progress

/-- What becomes of the reading when lines are read, the first of which has the number `line`. It
stops at one of the lines, which opens a diagram, or adds warnings about some of them. -/
inductive Reads (p : Progress) (texts : List (List Char)) (line : Int) :
    Except StructuralError Progress → Prop
  | stopped {i : Nat} {text : List Char} {name : String} (hi : texts[i]? = some text)
    (h : Line.read (Text.strip text) = .header name) :
    Reads p texts line (.error (.duplicateDiagram name (line + i)))
  | read {q : Progress} {ws : List Warning} (hq : q.warnings = p.warnings ++ ws)
    (hws : ∀ w ∈ ws, ∃ i text, texts[i]? = some text ∧
      Line.Refused (Text.strip text) (line + (i : Nat)) w) : Reads p texts line (.ok q)

variable {p q : Progress} {text : List Char} {texts : List (List Char)} {line : Int}

/-- A reading that adds no warning is one that warns about none of its lines. -/
theorem reads_silent (h : q.warnings = p.warnings) : Reads p texts line (.ok q) := by
  have hnone : q.warnings = p.warnings ++ [] := by rw [h, List.append_nil]
  exact .read hnone nofun

/-- A line that is refused adds the warning about it. -/
theorem reads_warn {message : String}
    (h : Line.Refused (Text.strip text) line ⟨.syntactic, message, some line⟩) :
    Reads p [text] line (.ok (p.warn message line)) := by
  refine .read rfl fun w hw => ?_
  obtain rfl := List.mem_singleton.1 hw
  exact ⟨0, text, rfl, by simpa using h⟩

/-- A line gives a warning at most when it looks like an entry. -/
theorem Stepped.reads {x : Except StructuralError Progress}
    (h : Stepped p (Text.strip text) line x) : Reads p [text] line x := by
  cases h with
  | ignored => exact reads_silent rfl
  | duplicate hread =>
    have hfirst : [text][0]? = some text := rfl
    simpa using Reads.stopped (p := p) hfirst hread
  | opened => exact reads_silent rfl
  | homeless hread => exact reads_warn (.homeless hread)
  | kept => exact reads_silent rfl
  | malformed hread => exact reads_warn (.malformed hread)

/-- What is read of the first line and of the further ones is read of all of them. -/
theorem Reads.cons {x : Except StructuralError Progress} (h : Reads p [text] line (.ok q))
    (hmore : Reads q texts (line + 1) x) : Reads p (text :: texts) line x := by
  have hline : ∀ i : Nat, line + 1 + i = line + (i + 1 : Nat) := fun i => by omega
  cases h with
  | @read _ ws hq hws =>
    cases hmore with
    | @stopped i u name hi hread =>
      rw [hline]
      exact .stopped hi hread
    | @read r vs hr hvs =>
      have hboth : r.warnings = p.warnings ++ (ws ++ vs) := by rw [hr, hq, List.append_assoc]
      refine .read hboth fun w hw => ?_
      rcases List.mem_append.1 hw with hw | hw
      · obtain ⟨i, u, hi, hrefused⟩ := hws w hw
        obtain ⟨rfl, rfl⟩ : i = 0 ∧ text = u := by
          cases i with
          | zero => exact ⟨rfl, Option.some.inj hi⟩
          | succ i => cases hi
        exact ⟨0, text, rfl, hrefused⟩
      · obtain ⟨i, u, hi, hrefused⟩ := hvs w hw
        exact ⟨i + 1, u, hi, hline i ▸ hrefused⟩

/-- A reading that the first line stops does not get to the further ones. -/
theorem Reads.stopped_first {cause : StructuralError} (h : Reads p [text] line (.error cause))
    (texts : List (List Char)) : Reads p (text :: texts) line (.error cause) := by
  cases h with
  | @stopped i u name hi hread =>
    cases i with
    | zero => exact .stopped (i := 0) hi hread
    | succ i => cases hi

/-- Every warning about lines is about one of them and has its number. -/
theorem steps_reads (p : Progress) (texts : List (List Char)) (line : Int) :
    Reads p texts line (p.steps texts line) := by
  induction texts generalizing p line with
  | nil => exact reads_silent rfl
  | cons text texts ih =>
    have hstep := (p.stepped (Text.strip text) line).reads
    rw [steps]
    cases h : p.step (Text.strip text) line with
    | error cause => exact (h ▸ hstep).stopped_first texts
    | ok q => exact (h ▸ hstep).cons (ih q (line + 1))

end Progress

/-- The line of a block's content with the number `i`, from zero, is a piece of the line of the file
that is `i` lines after the line where the content starts. It is the whole line when it is neither
the first nor the last one of the content. -/
theorem exists_line {l : Located} {i : Nat} {segment : List Char}
    (h : (Text.lines l.content)[i]? = some segment) :
    ∃ line, Text.line? l.text (l.line + i) = some line ∧ segment <:+: line ∧
      (i ≠ 0 → i + 1 ≠ (Text.lines l.content).length → segment = line) := by
  have htext : l.text = l.before ++ l.opening ++ l.content ++ (commentClose ++ l.after) := by
    simp [Located.text, Located.block]
  have hnumber : l.line + i = (l.before ++ l.opening).count '\n' + i + 1 := by
    rw [Located.line, Text.lineFeeds]
    omega
  rw [htext, hnumber]
  exact Text.exists_segment h (l.before ++ l.opening) (commentClose ++ l.after)

/-! ## Further blocks -/

/-- The first place of a text where a block opens: what stands before it, and the text from there
on. -/
structure OpensFirst (cs before rest : List Char) : Prop where
  text : cs = before ++ rest
  opens : (opening? rest).isSome = true
  first : ∀ a b, cs = a ++ b → a.length < before.length → opening? b = none

/-- The opening that is found is the first one of the text. -/
theorem opensFirst_findOpening {cs before opening rest : List Char}
    (h : findOpening cs = some (before, opening, rest)) :
    OpensFirst cs before (opening ++ rest) := by
  refine ⟨by rw [← List.append_assoc, ← findOpening_eq_some h],
    by rw [opening?_of_findOpening h, Option.isSome_some], fun a b hab hlt => ?_⟩
  induction cs generalizing before a with
  | nil => cases h
  | cons c cs ih =>
    rcases findOpening_cons_eq_some.1 h with ⟨rfl, -⟩ | ⟨between, rfl, hnone, hfound⟩
    · exact absurd hlt (Nat.not_lt_zero _)
    · cases a with
      | nil => exact (show c :: cs = b from hab) ▸ hnone
      | cons d a => exact ih hfound a (List.cons.inj hab).2 (Nat.lt_of_succ_lt_succ hlt)

/-- Where no opening is found, there is none at any place. -/
theorem opening?_eq_none {a b : List Char} (h : findOpening (a ++ b) = none) :
    opening? b = none := by
  induction a with
  | nil =>
    cases b with
    | nil => rfl
    | cons c b =>
      rw [List.nil_append, findOpening] at h
      split at h
      · cases h
      · assumption
  | cons c a ih =>
    rw [List.cons_append, findOpening] at h
    split at h
    · cases h
    · exact ih (Option.map_eq_none_iff.1 h)

/-- The warnings about blocks behind the one that counts. -/
inductive Further (l : Located) : List Warning → Prop
  | none (h : ∀ between rest, l.after = between ++ rest → opening? rest = none) : Further l []
  | next {between rest : List Char} {n : Nat} (h : OpensFirst l.after between rest)
    (hn : Text.StartsOn (l.before ++ l.block ++ between) rest n) :
    Further l [⟨.syntactic, "Multiple @erd-pets blocks found; using the first one", some n⟩]

/-- The warnings of a text are about the blocks behind the one that counts. -/
theorem further_warnings {cs : List Char} {l : Located} (h : locate cs = some l) :
    Further l (warnings cs) := by
  rw [warnings, h]
  dsimp only
  split
  · next hnone => exact .none fun between rest hafter => opening?_eq_none (hafter ▸ hnone)
  · next between opening more hfound =>
    exact .next (opensFirst_findOpening hfound) (Text.startsOn_lineFeeds _ _)

/-! ## Warnings of a text -/

/-- The warnings about the lines of a content lead to these lines. -/
theorem readContent_refused {content : List Char} {line : Int} {diagrams : DiagramSet}
    {ws : List Warning} (h : readContent content line = .ok (diagrams, ws)) :
    ∀ w ∈ ws, ∃ i segment, (Text.lines content)[i]? = some segment ∧
      Line.Refused (Text.strip segment) (line + (i : Nat)) w := by
  obtain ⟨p, hsteps, -, rfl⟩ := readContent_eq_ok.1 h
  cases hsteps ▸ Progress.steps_reads .start (Text.lines content) line with
  | @read _ vs hp hvs =>
    rw [hp]
    exact hvs

/-- **Warnings about a block lead to the right line of the file.** -/
theorem readText_lines {text : String} {l : Located} {diagrams : DiagramSet} {ws : List Warning}
    (hl : locate text.toList = some l) (h : readText text = .ok (some diagrams, ws)) :
    (∀ i segment, (Text.lines l.content)[i]? = some segment →
      ∃ line, Text.line? text.toList (l.line + i) = some line ∧ segment <:+: line ∧
        (i ≠ 0 → i + 1 ≠ (Text.lines l.content).length → segment = line)) ∧
    ∃ further refused, ws = further ++ refused ∧ Further l further ∧
      ∀ w ∈ refused, ∃ (n : Nat) (entry line : List Char), Line.Refused entry n w ∧
        Text.line? text.toList n = some line ∧ entry <:+: line := by
  have hlines : ∀ i segment, (Text.lines l.content)[i]? = some segment →
      ∃ line, Text.line? text.toList (l.line + i) = some line ∧ segment <:+: line ∧
        (i ≠ 0 → i + 1 ≠ (Text.lines l.content).length → segment = line) := by
    rw [← text_locate hl]
    exact fun i segment => exists_line
  refine ⟨hlines, ?_⟩
  obtain ⟨l', refused, hl', hread, rfl⟩ := readText_eq_ok.1 h
  obtain rfl := Option.some.inj (hl.symm.trans hl')
  refine ⟨warnings text.toList, refused, rfl, further_warnings hl, fun w hw => ?_⟩
  obtain ⟨i, segment, hi, hrefused⟩ := readContent_refused hread w hw
  obtain ⟨line, hline, hinfix, -⟩ := hlines i segment hi
  exact ⟨l.line + i, Text.strip segment, line, by simpa using hrefused, hline,
    (Text.infix_strip segment).trans hinfix⟩

/-- A text whose opening goes over two lines. An entry stands on the second one, before any header,
and a wrong one below the header; the block behind is not read. -/
def crookedText : String :=
  "x /*\n@erd-pets s.a\n[main]\ns.b left 2\n*/\ny /* @erd-pets */"

/-- The warnings have the numbers of the lines in the file that they are about, the one about the
further block first. -/
theorem crookedText_lines :
    ∃ l diagrams ws, locate crookedText.toList = some l ∧
      readText crookedText = .ok (some diagrams, ws) ∧ l.line = 2 ∧
      ws.map Warning.line = [some 6, some 2, some 4] ∧
      ∃ further refused, ws = further ++ refused ∧ Further l further ∧
        ∀ w ∈ refused, ∃ (n : Nat) (entry line : List Char), Line.Refused entry n w ∧
          Text.line? crookedText.toList n = some line ∧ entry <:+: line := by
  have hl : locate crookedText.toList
      = some ⟨"x ".toList, "/*\n@erd-pets".toList, " s.a\n[main]\ns.b left 2\n".toList,
          "\ny /* @erd-pets */".toList⟩ := by
    decide +kernel
  have hread : readText crookedText
      = .ok (some (.ofDiagrams [⟨"main", []⟩]),
          [⟨.syntactic, "Multiple @erd-pets blocks found; using the first one", some 6⟩,
            ⟨.syntactic, "Entry \"s.a\" appears before any [diagram] header", some 2⟩,
            ⟨.syntactic, "Invalid coordinates for \"s.b\": expected \"x y\"", some 4⟩]) := by
    decide +kernel
  exact ⟨_, _, _, hl, hread, by decide, rfl, (readText_lines hl hread).2⟩

end Block

end SchemaCanvas
