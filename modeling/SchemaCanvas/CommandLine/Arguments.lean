import SchemaCanvas.Number.Numeral
import SchemaCanvas.Placement.Strategy
import SchemaCanvas.Text.Letters

/-!
# Arguments of the command line

A command is followed by its parameters, by position or by name (`--name value`, `--name=value`),
and its flags. Parameters given by position come first in the order of the command: none of them can
be given by name as well, and none that is given by name can come before them.
-/

namespace SchemaCanvas.CommandLine

/-- How a report is written. -/
inductive Format
  | table
  | json
  deriving DecidableEq, Repr

/-- What the program is asked to do. -/
inductive Command
  | diagrams (file : String) (format : Format)
  | show (file : String) (diagram : Option String) (format : Format)
  | check (file : String)
  | layout (file : String) (diagram : Option String) (strategy : Option Strategy)
      (seed : Option Int) (write : Bool)
  deriving DecidableEq, Repr

/-- The arguments of a command: those given by position, and those given by name; flags have no
value. -/
structure Given where
  positional : List String
  named : List (String × String)
  flags : List (String × Bool)
  deriving DecidableEq, Repr

/-- What a command accepts: parameters by position or by name, parameters by name only, and
flags. -/
structure Accepted where
  positional : List String
  named : List String
  flags : List String

/-- Whether an argument has the form of an option; negative numbers do not, but the letter of the
imaginary unit after a hyphen does. -/
def isOption (argument : String) : Bool :=
  match argument.toList with
  | '-' :: letters => Number.isUnit letters || !Number.isNumeral argument.toList
  | _ => false

/-- The name of an option, whose underscores stand for hyphens, and the value that follows an equals
sign, if there is one. -/
def splitOption (argument : String) : String × Option String :=
  let cs := argument.toList
  let name := String.ofList ((cs.takeWhile (· ≠ '=')).map fun c => if c = '_' then '-' else c)
  match cs.dropWhile (· ≠ '=') with
  | _ :: value => (name, some (String.ofList value))
  | [] => (name, none)

/-- The truth value that a text writes, in letters of any case. -/
def readTruth? (text : String) : Option Bool :=
  if Text.lower text ∈ ["true", "yes", "y", "1", "t"] then some true
  else if Text.lower text ∈ ["false", "no", "n", "0", "f"] then some false
  else none

/-- The flag that an option names, and whether it sets or clears it. -/
def flagOf? (accepted : Accepted) (option : String) : Option (String × Bool) :=
  (accepted.flags.find? fun flag => option = "--" ++ flag).map (·, true) |>.or
    ((accepted.flags.find? fun flag => option = "--no-" ++ flag).map (·, false))

/-- The parameter that an option names. -/
def parameterOf? (accepted : Accepted) (option : String) : Option String :=
  (accepted.positional ++ accepted.named).find? fun name => option = "--" ++ name

/-- The arguments with one more flag. -/
def Given.withFlag (g : Given) (flag : String) (value : Bool) : Given :=
  { g with flags := (flag, value) :: g.flags }

/-- The arguments with one more value by name. -/
def Given.withNamed (g : Given) (name value : String) : Given :=
  { g with named := (name, value) :: g.named }

/-- The arguments sorted into positional and named ones. -/
def sortArguments (accepted : Accepted) : List String → Option Given
  | [] => some ⟨[], [], []⟩
  | argument :: arguments =>
    if argument = "--" then some ⟨arguments, [], []⟩
    else if isOption argument then
      let (option, attached) := splitOption argument
      match flagOf? accepted option with
      | some (flag, value) =>
        match attached with
        | none => (sortArguments accepted arguments).map (·.withFlag flag value)
        | some text => (readTruth? text).bind fun truth =>
          (sortArguments accepted arguments).map (·.withFlag flag (value == truth))
      | none =>
        (parameterOf? accepted option).bind fun name =>
          match attached, arguments with
          | some value, arguments =>
            (sortArguments accepted arguments).map (·.withNamed name value)
          | none, value :: arguments =>
            if isOption value then none
            else (sortArguments accepted arguments).map (·.withNamed name value)
          | none, [] => none
    else
      (sortArguments accepted arguments).map fun g =>
        { g with positional := argument :: g.positional }

/-- The values of the parameters, if they are given as the command accepts them. -/
def bindParameters (accepted : Accepted) (g : Given) : Option (List (String × String)) :=
  let leading := accepted.positional.take g.positional.length
  let names := g.named.map Prod.fst
  let flags := g.flags.map Prod.fst
  if g.positional.length ≤ accepted.positional.length ∧ (∀ name ∈ leading, name ∉ names) ∧
      names.Nodup ∧ flags.Nodup then
    some (leading.zip g.positional ++ g.named)
  else none

/-- The seed that a text writes. -/
def readSeed? (text : String) : Option Int :=
  Number.readGrouped? text.toList

/-- The format of a name. -/
def readFormat? : Option String → Option Format
  | none => some .table
  | some text => if text = "table" then some .table else if text = "json" then some .json else none

/-- Whether a text says that there is no value, in letters of any case. -/
def saysNothing (text : String) : Bool :=
  Text.lower text ∈ ["none", "null"]

/-- Reads a value that may be missing, or given as none. -/
def optional {α : Type} (read : String → Option α) : Option String → Option (Option α)
  | none => some none
  | some text => ((read text).map some).or (if saysNothing text then some none else none)

/-- What a command accepts. -/
def accepted? : String → Option Accepted
  | "diagrams" => some ⟨["location", "fmt"], [], []⟩
  | "show" => some ⟨["location", "diagram", "fmt"], [], []⟩
  | "check" => some ⟨["location"], [], []⟩
  | "layout" => some ⟨["location", "diagram", "strategy"], ["seed"], ["write"]⟩
  | _ => none

/-- The command of a name with the values of its parameters and its flags. -/
def assemble (name : String) (values : List (String × String)) (flags : List (String × Bool)) :
    Option Command := do
  let file ← values.lookup "location"
  match name with
  | "diagrams" => return .diagrams file (← readFormat? (values.lookup "fmt"))
  | "show" => return .show file (values.lookup "diagram") (← readFormat? (values.lookup "fmt"))
  | "check" => return .check file
  | _ =>
    let strategy ← optional Strategy.ofName? (values.lookup "strategy")
    let seed ← optional readSeed? (values.lookup "seed")
    return .layout file (values.lookup "diagram") strategy seed ((flags.lookup "write").getD false)

/-- The command that the arguments ask for, if they are well formed. -/
def Command.ofArguments : List String → Option Command
  | [] => none
  | name :: arguments => do
    let accepted ← accepted? name
    let given ← sortArguments accepted arguments
    let values ← bindParameters accepted given
    assemble name values given.flags

end SchemaCanvas.CommandLine
