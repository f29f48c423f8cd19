/-!
# The host of a schema file

The host keeps the text of a file and reads and writes it on request. Either may fail, with the
host's own account of the failure, and a write may also be refused.
-/

namespace SchemaCanvas

/-- What became of a write. -/
inductive WriteOutcome
  | written
  | refused
  | failed (reason : String)
  deriving DecidableEq, Repr

/-- The text of a file, and how reading and writing it go. -/
structure Host where
  text : String
  readFault : Option String
  writeFault : Option String
  refusesWrites : Bool
  deriving DecidableEq, Repr

namespace Host

/-- A host that reads and writes without faults. -/
def ofText (text : String) : Host :=
  ⟨text, none, none, false⟩

/-- What reading the file gives: its text or the account of a failure. -/
def read (h : Host) : Except String String :=
  match h.readFault with
  | some reason => .error reason
  | none => .ok h.text

/-- What becomes of a write, and the host after it. -/
def write (h : Host) (text : String) : WriteOutcome × Host :=
  match h.writeFault with
  | some reason => (.failed reason, h)
  | none => if h.refusesWrites then (.refused, h) else (.written, { h with text })

end Host

end SchemaCanvas
