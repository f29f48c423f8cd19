import SchemaCanvas.CommandLine.Arguments
import SchemaCanvas.Report.Json
import SchemaCanvas.Report.Table
import SchemaCanvas.Settings.Search
import SchemaCanvas.Sync.Session

/-!
# Running a command

A command reads a schema file and perhaps its settings from a tree of files, and answers with what
it prints and with the tree as it leaves it. Most problems end a run with an error message; those of
a computation that cannot be completed escape from it.
-/

namespace SchemaCanvas.CommandLine

/-- Why a run is left before its end. -/
inductive Escape
  | layout (cause : LayoutError)
  | settings (cause : SettingsError)
  | session (cause : SessionError)
  | markup (cause : Terminal.MarkupError)
  /-- A path is too long to be looked up. -/
  | tooLong (path : Path)

/-- The wording of a cause. -/
def Escape.message : Escape → String
  | .layout cause => cause.message
  | .settings cause => cause.message
  | .session cause => cause.message
  | .markup cause => cause.message
  | .tooLong path => "[Errno 36] File name too long: " ++ Text.literal path.text

/-- How a run ends. -/
inductive Ending
  | exit (code : Nat)
  | usage
  | escape (cause : Escape)

/-- What a run has printed, and the files as it has left them. -/
structure Output where
  stdout : String
  stderr : String
  files : FileTree

/-- What a run leaves behind, and how it ends. -/
structure Outcome where
  output : Output
  ending : Ending

/-- A computation of a run, which an ending may cut short. -/
abbrev Run := EStateM Ending Output

/-- Writes to the standard output. -/
def print (text : String) : Run Unit :=
  modify fun o => { o with stdout := o.stdout ++ text }

/-- Draws markup, or leaves the run. -/
def drawing {α : Type} : Except Terminal.MarkupError α → Run α
  | .ok a => return a
  | .error cause => throw (.escape (.markup cause))

/-- Writes a line of markup to the standard error. -/
def report (line : String) : Run Unit := do
  let drawn ← drawing (Terminal.Markup.draw line)
  modify fun o => { o with stderr := o.stderr ++ String.ofList (Terminal.printed drawn) }

/-- Prints a table. -/
def printTable (t : Report.Table) : Run Unit := do
  print (← drawing t.text)

/-- Ends the run with an error message. -/
def fail {α : Type} (message : String) : Run α := do
  report ("[bold red]Error:[/] " ++ Terminal.Markup.escape message)
  throw (.exit 1)

/-- Writes an information. -/
def inform (message : String) : Run Unit :=
  report ("[bold blue]i[/] " ++ message)

/-- Writes that something has been done; the message is markup. -/
def confirm (message : String) : Run Unit :=
  report ("[bold green]✓[/] " ++ message)

/-- The colour in which warnings of a kind are announced. -/
def announcement : Warning.Kind → String
  | .syntactic => "yellow"
  | .resolution => "magenta"

/-- Writes a warning. -/
def warn (w : Warning) : Run Unit :=
  report ("[bold " ++ announcement w.kind ++ "]" ++ w.kind.word ++ ":[/] " ++
    Terminal.Markup.escape w.text)

/-- Reads a schema file and everything that is known about it. -/
def load (file : Path) : Run (String × Loaded) := do
  let files := (← get).files
  if files.isTooLong file then throw (.escape (.tooLong file))
  match files.content? file with
  | none => fail ("Schema file does not exist: " ++ file.text)
  | some bytes =>
    match Text.decode bytes with
    | .error cause =>
      fail ("Cannot read schema file: " ++ file.text ++ " (" ++ cause.message ++ ")")
    | .ok text =>
      match Loaded.ofText text with
      | .error cause => fail cause.message
      | .ok loaded => return (text, loaded)

/-- The settings with a strategy and a seed in place of their own. -/
def override (s : Settings) (strategy : Option Strategy) (seed : Option Int) : Settings :=
  let chosen := match strategy with
    | some strategy => if strategy = s.strategy then s else { Settings.standard with strategy }
    | none => s
  match seed with
  | some seed => { chosen with options := chosen.options.insert "seed" (.whole seed) }
  | none => chosen

/-- The generator that the settings of a file choose, unless the command line chooses another. -/
def chooseGenerator (entropy : Nat) (file : Path) (strategy : Option Strategy)
    (seed : Option Int) : Run (Generator Unit) := do
  match Settings.load (← get).files file with
  | .ok (settings, _) => return (override settings strategy seed).generator entropy
  | .error .notTable => throw (.escape (.settings .notTable))
  | .error .compoundStrategy => throw (.escape (.settings .compoundStrategy))
  | .error cause => fail ("Invalid layout settings: " ++ cause.message)

/-- The name of the diagram that is asked for, or of the first one. -/
def chooseDiagram (loaded : Loaded) : Option String → Run String
  | none => return loaded.diagrams.keys.headD defaultDiagramName
  | some name =>
    if loaded.diagrams.contains name then return name
    else fail ("Unknown diagram '" ++ name ++ "'. Available: " ++
      ", ".intercalate loaded.diagramNames)

/-- A computation that calls a generator, as part of a run. -/
def placing {α : Type} (p : Placing Unit α) : Run α :=
  match p () with
  | .ok a _ => return a
  | .error cause _ => throw (.escape (.layout cause))

/-- A rounded coordinate. -/
def rounded (n : Number) : Run String :=
  match n.round with
  | .ok n => return toString n
  | .error cause => throw (.escape (.layout (.number cause)))

/-- The numbers of wildcards and of single tables in a diagram. -/
def entryCounts (d : Diagram) : Nat × Nat :=
  (d.entries.countP (·.tableName?.isNone), d.entries.countP (·.tableName?.isSome))

/-- Reports the diagrams of a file. -/
def runDiagrams (file : Path) (format : Format) : Run Unit := do
  let (_, loaded) ← load file
  match format with
  | .json =>
    print (Json.array (loaded.diagrams.values.map fun diagram =>
      let counts := entryCounts diagram
      .object [("name", .string diagram.name), ("wildcards", .ofNat counts.1),
        ("tables", .ofNat counts.2)])).text
  | .table =>
    if loaded.hasBlock then pure ()
    else inform "No @erd-pets block found, showing the default diagram"
    printTable {
      title := "Diagrams"
      columns := [⟨"Name", .left⟩, ⟨"Wildcards", .right⟩, ⟨"Tables", .right⟩]
      rows := loaded.diagrams.values.map fun diagram =>
        let counts := entryCounts diagram
        [diagram.name, toString counts.1, toString counts.2] }

/-- The row of a table on the canvas. -/
def nodeRow (n : Node) : Run (List String) := do
  let x ← rounded n.position.x
  let y ← rounded n.position.y
  return [n.name, x, y, toString n.table.columns.length]

/-- The row of a foreign key. -/
def edgeRow (k : ForeignKey) : List String :=
  [k.sourceTable ++ "." ++ k.sourceColumn, k.targetTable ++ "." ++ k.targetColumn]

/-- Reports the picture of a diagram as tables. -/
def showPicture (name : String) (p : Picture) : Run Unit := do
  let rows ← p.nodes.mapM nodeRow
  printTable {
    title := "Diagram [" ++ name ++ "]"
    columns := [⟨"Table", .left⟩, ⟨"X", .right⟩, ⟨"Y", .right⟩, ⟨"Columns", .right⟩]
    rows }
  if p.edges.isEmpty then print "No relationships between the tables on this diagram.\n"
  else
    printTable {
      title := "Relationships"
      columns := [⟨"From", .left⟩, ⟨"To", .left⟩]
      rows := p.edges.map edgeRow }

/-- Reports the picture of a diagram. -/
def runShow (entropy : Nat) (file : Path) (diagram : Option String) (format : Format) :
    Run Unit := do
  let (_, loaded) ← load file
  let name ← chooseDiagram loaded diagram
  let generator ← chooseGenerator entropy file none none
  let picture ← placing (loaded.diagrams.resolve name loaded.schema generator)
  match format with
  | .json => print (picture.report name).text
  | .table => showPicture name picture

/-- Reports every problem of a file. -/
def runCheck (file : Path) : Run Unit := do
  let (_, loaded) ← load file
  loaded.warnings.forM warn
  inform (toString loaded.schema.tables.size ++ " tables, " ++
    toString loaded.schema.foreignKeys.length ++ " foreign keys, " ++
    toString loaded.diagrams.size ++ " diagrams")
  if loaded.warnings.isEmpty then confirm "No problems found"
  else inform (toString loaded.warnings.length ++ " warnings")

/-- A session that loads a text, shows a diagram, refreshes it and saves: the text it writes. -/
def layoutSession {σ : Type} (g : Generator σ) (name text : String) : Session.Step σ String := do
  Session.startLoad
  let _ ← Session.finishRead g (.ok text)
  let _ ← Session.select g name
  Session.startRefresh
  let _ ← Session.finishRead g (.ok text)
  let _ ← Session.startSave g
  Session.finishWrite .written

/-- The text with a place for every table in its block. -/
def layoutText {σ : Type} (g : Generator σ) (name text : String) (diagrams : DiagramSet) :
    EStateM FileError σ String := do
  let refreshed ← Refreshed.ofText name text diagrams g
  fun s =>
    match DiagramSet.prepareSave text refreshed.diagrams name refreshed.picture.positions g s with
    | .ok saved t => .ok saved t
    | .error cause t => .error (.layout cause) t

/-- Gives every table a place, and prints the file or writes it. -/
def runLayout (entropy : Nat) (file : Path) (diagram : Option String) (strategy : Option Strategy)
    (seed : Option Int) (write : Bool) : Run Unit := do
  let (text, loaded) ← load file
  let name ← chooseDiagram loaded diagram
  let generator ← chooseGenerator entropy file strategy seed
  loaded.warnings.forM warn
  if write then
    match layoutSession generator name text (Session.start, ()) with
    | .ok written _ =>
      modify fun o => { o with files := o.files.write file written.toUTF8.toList }
      confirm ("Layout written to " ++ file.text)
    | .error cause _ => throw (.escape (.session cause))
  else
    match layoutText generator name text loaded.diagrams () with
    | .ok saved _ => print saved
    | .error cause _ => throw (.escape (.session (.file cause)))

/-- Runs a command. -/
def Command.run (entropy : Nat) : Command → Run Unit
  | .diagrams file format => runDiagrams (Path.ofText file) format
  | .show file diagram format => runShow entropy (Path.ofText file) diagram format
  | .check file => runCheck (Path.ofText file)
  | .layout file diagram strategy seed write =>
    runLayout entropy (Path.ofText file) diagram strategy seed write

/-- What the program does with its arguments. Random layouts without a seed depend on `entropy`. -/
def run (files : FileTree) (entropy : Nat) (arguments : List String) : Outcome :=
  let start : Output := ⟨"", "", files⟩
  match Command.ofArguments arguments with
  | none => ⟨start, .usage⟩
  | some command =>
    match command.run entropy start with
    | .ok _ output => ⟨output, .exit 0⟩
    | .error ending output => ⟨output, ending⟩

end SchemaCanvas.CommandLine
