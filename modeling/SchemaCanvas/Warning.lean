/-!
# Warnings

A warning reports a problem of a text that did not stop its reading.
-/

namespace SchemaCanvas

/-- What became of the text that a warning is about. -/
inductive Warning.Kind
  /-- A statement or a line was skipped. -/
  | syntactic
  /-- A single reference was dropped. -/
  | resolution
  deriving DecidableEq, Repr

/-- The word for a kind of warning. -/
def Warning.Kind.word : Warning.Kind → String
  | .syntactic => "syntax"
  | .resolution => "resolution"

/-- A problem that did not stop the reading, with its line when it has one. -/
structure Warning where
  kind : Warning.Kind
  message : String
  line : Option Int
  deriving DecidableEq, Repr

/-- The warning as one line of text. -/
def Warning.text (w : Warning) : String :=
  match w.line with
  | some line => "line " ++ toString line ++ ": " ++ w.message
  | none => w.message

end SchemaCanvas
