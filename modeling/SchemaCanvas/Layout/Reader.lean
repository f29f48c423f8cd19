import SchemaCanvas.Layout.Block
import SchemaCanvas.Layout.Line
import SchemaCanvas.Warning

/-!
# Reading the diagrams of a layout block

The lines of a block are read one after another: a header opens a diagram, and entries belong to the
diagram that was opened last. Entries are kept exactly as they are written, duplicates included.
What cannot be read is skipped, with a warning if it looks like an entry; only a diagram that is
declared twice stops the reading.
-/

namespace SchemaCanvas

/-- Why a text has nothing to draw. -/
inductive StructuralError
  | duplicateDiagram (name : String) (line : Int)
  /-- No table could be read, and so many statements were skipped or references dropped. -/
  | noTables (skipped : Nat)
  deriving DecidableEq, Repr

/-- The wording of a cause. -/
def StructuralError.message : StructuralError → String
  | .duplicateDiagram name line =>
    "Diagram \"[" ++ name ++ "]\" is declared more than once (line " ++ toString line ++ ")"
  | .noTables skipped =>
    let reason := "No CREATE TABLE statements could be parsed"
    if skipped = 0 then reason
    else reason ++ " (" ++ toString skipped ++ " statement(s) skipped)"

namespace Block

/-- What has been read of a block: the finished diagrams, the one that was opened last, and the
warnings. -/
structure Progress where
  finished : DiagramSet
  current : Option Diagram
  warnings : List Warning

namespace Progress

/-- The progress before the first line. -/
def start : Progress :=
  ⟨∅, none, []⟩

/-- All diagrams that have been opened. -/
def diagrams (p : Progress) : DiagramSet :=
  match p.current with
  | none => p.finished
  | some diagram => p.finished.insert diagram.name diagram

/-- The progress with one more warning. -/
def warn (p : Progress) (message : String) (line : Int) : Progress :=
  { p with warnings := p.warnings ++ [⟨.syntactic, message, some line⟩] }

/-- The progress after one more line, given by its text without blanks at its ends and its
number. -/
def step (p : Progress) (text : List Char) (line : Int) : Except StructuralError Progress :=
  match Line.read text with
  | .ignored => .ok p
  | .header name =>
    if p.diagrams.contains name then .error (.duplicateDiagram name line)
    else .ok ⟨p.diagrams, some ⟨name, []⟩, p.warnings⟩
  | .entry entry =>
    match p.current with
    | none =>
      .ok (p.warn
        ("Entry \"" ++ String.ofList text ++ "\" appears before any [diagram] header") line)
    | some diagram =>
      match entry with
      | .ok entry =>
        .ok { p with current := some { diagram with entries := diagram.entries ++ [entry] } }
      | .error cause => .ok (p.warn cause.message line)

/-- The progress after lines, the first of which has the number `line`. -/
def steps (p : Progress) : List (List Char) → (line : Int) → Except StructuralError Progress
  | [], _ => .ok p
  | text :: texts, line =>
    match p.step (Text.strip text) line with
    | .ok p => p.steps texts (line + 1)
    | .error cause => .error cause

end Progress

/-- The diagrams of the content of a block, and the warnings about its lines. -/
def readContent (content : List Char) (firstLine : Int) :
    Except StructuralError (DiagramSet × List Warning) :=
  (Progress.start.steps (Text.lines content) firstLine).map fun p => (p.diagrams, p.warnings)

/-- The warnings about the blocks of a text as a whole: about a block that is never closed, or about
a second one. -/
def warnings (cs : List Char) : List Warning :=
  match locate cs with
  | none =>
    match findOpening cs with
    | none => []
    | some (before, _, _) =>
      [⟨.syntactic, "@erd-pets block is missing its closing */",
        some (Text.lineFeeds before + 1 : Nat)⟩]
  | some l =>
    match findOpening l.after with
    | none => []
    | some (between, _, _) =>
      [⟨.syntactic, "Multiple @erd-pets blocks found; using the first one",
        some (Text.lineFeeds (l.before ++ l.block ++ between) + 1 : Nat)⟩]

/-- The diagrams of a text, or none when it has no block, and the warnings about its blocks. -/
def readText (text : String) : Except StructuralError (Option DiagramSet × List Warning) :=
  let cs := text.toList
  match locate cs with
  | none => .ok (none, warnings cs)
  | some l =>
    match readContent l.content l.line with
    | .ok (diagrams, more) => .ok (some diagrams, warnings cs ++ more)
    | .error cause => .error cause

end Block

end SchemaCanvas
