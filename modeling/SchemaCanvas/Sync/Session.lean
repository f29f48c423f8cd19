import SchemaCanvas.File.Refreshed
import SchemaCanvas.Sync.Host

/-!
# Sessions with a schema file

A session keeps the text of a file, its schema and diagrams, and what is on the canvas, in step with
each other. Loading, refreshing and saving wait for the host of the file, so each is a start, which
leaves the request pending, and a finish with the answer of the host. In between the user may select
diagrams and move tables, but no second request can start. Every request, selection and move has a
number; the answer to a request that is not the latest is discarded.
-/

namespace SchemaCanvas

/-- How the layout in memory stands to the one in the file. -/
inductive Phase
  | unloaded
  | loaded
  /-- The layout in memory may differ from the one in the file. -/
  | dirty
  | saving
  deriving DecidableEq, Repr

/-- The word for a phase. -/
def Phase.word : Phase → String
  | .unloaded => "unloaded"
  | .loaded => "loaded"
  | .dirty => "dirty"
  | .saving => "saving"

/-- A request that waits for the host, with its number and with what it needs later. -/
inductive Pending
  | load (number : Nat)
  | refresh (number : Nat) (diagram : String)
  | save (number : Nat) (diagrams : DiagramSet) (text : String)
  deriving DecidableEq

/-- What a session is asked to do. -/
inductive Action
  | load
  | refresh
  | save
  | select
  | move
  deriving DecidableEq, Repr

/-- An action in words. -/
def Action.words : Action → String
  | .load => "load"
  | .refresh => "refresh"
  | .save => "save"
  | .select => "select a diagram"
  | .move => "move a table"

/-- Why a session does not do what it is asked to. -/
inductive SessionError
  | busy (action : Action)
  | notLoaded (action : Action)
  | unknownDiagram (name : String)
  | notOnDiagram (table : String)
  /-- A table on the canvas is not in the schema. -/
  | notInSchema (table : String)
  | readFailed (reason : String)
  | writeFailed (reason : String)
  | writeRefused
  | file (cause : FileError)
  /-- The host answers a request that was not made. -/
  | unexpectedAnswer
  deriving DecidableEq, Repr

/-- The wording of a cause. -/
def SessionError.message : SessionError → String
  | .busy action =>
    "Cannot " ++ action.words ++ " while another load, refresh or save is running"
  | .notLoaded action => "Cannot " ++ action.words ++ " before a file is loaded"
  | .unknownDiagram name => "Unknown diagram: " ++ name
  | .notOnDiagram table => "Table is not on the current diagram: " ++ table
  | .notInSchema table => table
  | .readFailed reason => "Failed to read file: " ++ reason
  | .writeFailed reason => "Failed to write file: " ++ reason
  | .writeRefused => "Failed to write file"
  | .file cause => cause.message
  | .unexpectedAnswer => "no request waits for this answer"

/-- A session with a schema file. -/
structure Session where
  phase : Phase
  text : String
  schema : Schema
  diagrams : DiagramSet
  /-- The name of the diagram on the canvas. -/
  active : Option String
  positions : Positions
  picture : Picture
  warnings : List Warning
  /-- The number of the latest request, selection or move. -/
  latest : Nat
  pending : Option Pending
  deriving DecidableEq

namespace Session

variable {σ : Type}

/-- A session before its file is loaded. -/
def start : Session where
  phase := .unloaded
  text := ""
  schema := .empty
  diagrams := ∅
  active := none
  positions := ∅
  picture := .empty
  warnings := []
  latest := 0
  pending := none

/-- A step of a session whose generator has the state `σ`. -/
abbrev Step (σ α : Type) := EStateM SessionError (Session × σ) α

/-- The session. -/
def current : Step σ Session := fun s => .ok s.1 s

/-- Puts another session in the place of this one. -/
def become (s : Session) : Step σ Unit := fun t => .ok () (s, t.2)

/-- Fails with `cause` unless the condition holds. -/
def check (condition : Bool) (cause : SessionError) : Step σ Unit := fun s =>
  if condition then .ok () s else .error cause s

/-- A step that calls the generator and leaves the session alone. -/
def placing {α : Type} (p : Placing σ α) : Step σ α := fun s =>
  match p s.2 with
  | .ok a t => .ok a (s.1, t)
  | .error cause t => .error (.file (.layout cause)) (s.1, t)

/-- A step that reads a file, calls the generator, and leaves the session alone. -/
def reading {α : Type} (p : EStateM FileError σ α) : Step σ α := fun s =>
  match p s.2 with
  | .ok a t => .ok a (s.1, t)
  | .error cause t => .error (.file cause) (s.1, t)

/-- The session with one more number given out. -/
def counted (s : Session) : Session :=
  { s with latest := s.latest + 1 }

/-- The session with a picture on the canvas. -/
def showing (s : Session) (picture : Picture) : Session :=
  { s with picture, positions := picture.positions }

/-- The name of the diagram on the canvas; the file must be loaded. -/
def requireLoaded (action : Action) : Step σ String := do
  let s ← current
  match s.phase, s.active with
  | .unloaded, _ => throw (.notLoaded action)
  | _, none => throw (.notLoaded action)
  | _, some name => return name

/-- Fails when a request is pending. -/
def requireIdle (action : Action) : Step σ Unit := do
  let s ← current
  check s.pending.isNone (.busy action)

/-- The diagrams with the places on the canvas written into the diagram on it. -/
def committed : Step σ DiagramSet := do
  let s ← current
  match s.active with
  | none => return s.diagrams
  | some name => placing (s.diagrams.commit name s.positions)

/-- Starts to load the file. -/
def startLoad : Step σ Unit := do
  requireIdle .load
  let s ← current
  become { s.counted with pending := some (.load s.counted.latest) }

/-- Starts to refresh the diagram on the canvas. -/
def startRefresh : Step σ Unit := do
  let name ← requireLoaded .refresh
  requireIdle .refresh
  let s ← current
  become { s.counted with pending := some (.refresh s.counted.latest name) }

/-- Starts to save the layout, and answers with the text to write. -/
def startSave (g : Generator σ) : Step σ String := do
  let _ ← requireLoaded .save
  requireIdle .save
  let s ← current
  become s.counted
  let diagrams ← committed
  let filled ← placing (diagrams.fill g)
  let text ← placing (Placing.save s.text filled)
  become { s.counted with phase := .saving, pending := some (.save s.counted.latest filled text) }
  return text

/-- Takes over a file that has been read, and shows its first diagram. -/
def adopt (g : Generator σ) (text : String) : Step σ Picture := do
  let loaded ← reading fun s =>
    match Loaded.ofText text with
    | .ok loaded => .ok loaded s
    | .error cause => .error (.structural cause) s
  let name := loaded.diagrams.keys.headD defaultDiagramName
  let s ← current
  become { s with
    text
    schema := loaded.schema
    diagrams := loaded.diagrams
    warnings := loaded.warnings
    active := some name }
  let picture ← placing (loaded.diagrams.resolve name loaded.schema g)
  let s ← current
  become { s.showing picture with phase := .loaded }
  return picture

/-- Takes over the schema of a newer text, and brings the diagram called `name` in step with it. -/
def renew (g : Generator σ) (name text : String) : Step σ Picture := do
  let previous ← committed
  let refreshed ← reading (Refreshed.ofText name text previous g)
  let s ← current
  let s := { s with
    text
    schema := refreshed.schema
    warnings := refreshed.warnings
    diagrams := refreshed.diagrams }
  let s := s.showing refreshed.picture
  become (if refreshed.diagrams.same previous then s else { s with phase := .dirty })
  return refreshed.picture

/-- Finishes a load or a refresh with what reading the file gave. There is no picture when the
request has been superseded. -/
def finishRead (g : Generator σ) (answer : Except String String) : Step σ (Option Picture) := do
  let s ← current
  match s.pending with
  | some (.load number) =>
    become { s with pending := none }
    match answer with
    | .error reason => throw (.readFailed reason)
    | .ok text => if number = s.latest then some <$> adopt g text else return none
  | some (.refresh number name) =>
    become { s with pending := none }
    match answer with
    | .error reason => throw (.readFailed reason)
    | .ok text => if number = s.latest then some <$> renew g name text else return none
  | _ => throw .unexpectedAnswer

/-- Finishes a save with what became of the write, and answers with the text that was written. After
a later selection or move the session goes on with its own diagrams. -/
def finishWrite (outcome : WriteOutcome) : Step σ String := do
  let s ← current
  match s.pending with
  | some (.save number diagrams text) =>
    let s := { s with pending := none }
    match outcome with
    | .failed reason =>
      become { s with phase := .dirty }
      throw (.writeFailed reason)
    | .refused =>
      become { s with phase := .dirty }
      throw .writeRefused
    | .written =>
      if number = s.latest then become { s with text, diagrams, phase := .loaded }
      else become { s with text, phase := .dirty }
      return text
  | _ => throw .unexpectedAnswer

/-- Puts another diagram on the canvas, and keeps the edits of the one that was on it. -/
def select (g : Generator σ) (name : String) : Step σ Picture := do
  let _ ← requireLoaded .select
  let s ← current
  check (s.diagrams.contains name) (.unknownDiagram name)
  become s.counted
  let diagrams ← if s.phase = .dirty ∨ s.phase = .saving then committed else pure s.diagrams
  become { s.counted with diagrams, active := some name }
  let picture ← placing (diagrams.resolve name s.schema g)
  let s ← current
  become (s.showing picture)
  return picture

/-- Moves a table on the canvas. -/
def move (table : String) (position : Position) : Step σ Picture := do
  let _ ← requireLoaded .move
  let s ← current
  check (s.positions.contains table) (.notOnDiagram table)
  let positions := s.positions.insert table position
  become { s.counted with positions }
  match positions.keys.find? fun name => !s.schema.contains name with
  | some name => throw (.notInSchema name)
  | none =>
    let picture := Picture.draw s.schema positions
    let phase : Phase := if s.phase = .saving then .saving else .dirty
    become { s.counted with positions, picture, phase }
    return picture

end Session

end SchemaCanvas
