import SchemaCanvas.Number.Reader
import SchemaCanvas.Placement.Strategy
import SchemaCanvas.Settings.Value
import SchemaCanvas.Text.Utf8

/-!
# Layout settings

The `layout` table of a settings document chooses a strategy and sets options of the strategies.
Options of a strategy that is not chosen are kept but have no effect; unknown keys are ignored and
reported.
-/

namespace SchemaCanvas

/-- A strategy and the options that are set. -/
structure Settings where
  strategy : Strategy
  options : Registry Number

/-- Why settings cannot be used. -/
inductive SettingsError
  | unknownStrategy (name : String)
  /-- The strategy is given as a list or a table. -/
  | compoundStrategy
  | notNumber (option : String) (value : Value)
  /-- The layout is given by something else than a table. -/
  | notTable
  /-- The document is not well written. -/
  | malformed
  /-- A whole number of the document has too many decimal digits. -/
  | tooManyDigits (count : Nat)
  | undecodable (cause : Text.DecodeError)

/-- The wording of a cause. -/
def SettingsError.message : SettingsError → String
  | .unknownStrategy name => "Unknown layout strategy: " ++ name
  | .compoundStrategy => "a strategy cannot be a list or a table"
  | .notNumber option value =>
    "Layout setting " ++ option ++ " must be a number, got " ++ value.shown
  | .notTable => "the layout must be a table"
  | .malformed => "the document is not well written"
  | .tooManyDigits count =>
    "Exceeds the limit (" ++ toString Number.digitLimit ++
      " digits) for integer string conversion: value has " ++ toString count ++
      " digits; use sys.set_int_max_str_digits() to increase the limit"
  | .undecodable cause => cause.message

/-- The warning that a key of the layout table is unknown. -/
def ignoredSetting (key : String) : String :=
  "Ignoring unknown layout setting: " ++ key

namespace Settings

/-- The settings of a file without a settings document. -/
def standard : Settings :=
  ⟨.circular, ∅⟩

/-- The names of the options of all strategies. -/
def optionNames : List String :=
  Strategy.all.flatMap Strategy.optionNames

/-- The strategy that a layout table chooses. -/
def strategyOf (layout : List (String × Value)) : Except SettingsError Strategy :=
  match Value.find? "strategy" layout with
  | none => .ok standard.strategy
  | some (.list _) | some (.table _) => .error .compoundStrategy
  | some (.text name) =>
    match Strategy.ofName? name with
    | some strategy => .ok strategy
    | none => .error (.unknownStrategy name)
  | some value => .error (.unknownStrategy value.said)

/-- The settings with the items of a layout table, and the keys that were ignored. -/
def addItems (s : Settings) : List (String × Value) → Except SettingsError (Settings × List String)
  | [] => .ok (s, [])
  | (key, value) :: items =>
    if key = "strategy" then s.addItems items
    else if key ∈ optionNames then
      match value with
      | .number n => Settings.addItems { s with options := s.options.insert key n } items
      | value => .error (.notNumber key value)
    else do
      let (s, ignored) ← s.addItems items
      return (s, key :: ignored)

/-- The settings that a document holds, and the keys of its layout table that were ignored. -/
def ofItems (document : List (String × Value)) : Except SettingsError (Settings × List String) :=
  match Value.find? "layout" document with
  | none => .ok (standard, [])
  | some (.table layout) => do
    let strategy ← strategyOf layout
    Settings.addItems { standard with strategy } layout
  | some _ => .error .notTable

/-- The generator that the settings choose. A scatter layout without a seed is seeded by
`entropy`. -/
def generator {σ : Type} (s : Settings) (entropy : Nat) : Generator σ :=
  s.strategy.generator
    (s.options.filterMap fun key n => if key ∈ s.strategy.optionNames then some (some n) else none)
    entropy

end Settings

end SchemaCanvas
