import SchemaCanvas.Placement.Circular
import SchemaCanvas.Placement.Scatter

/-!
# Layout strategies

A strategy is a way of placing tables that can be chosen by its name, with options by theirs.
-/

namespace SchemaCanvas

/-- The ways of placing tables. -/
inductive Strategy
  | circular
  | scatter
  deriving DecidableEq, Repr

namespace Strategy

/-- All strategies. -/
def all : List Strategy :=
  [.circular, .scatter]

/-- The name of a strategy. -/
def name : Strategy → String
  | .circular => "circular"
  | .scatter => "scatter"

/-- The strategy of a name. -/
def ofName? (text : String) : Option Strategy :=
  all.find? fun strategy => strategy.name = text

/-- The names of the options of a strategy. -/
def optionNames : Strategy → List String
  | .circular => ["radius", "schema_spacing"]
  | .scatter => ["seed", "width", "height", "margin"]

/-- The value of an option: the chosen one, which may be nothing, or else the standard one. -/
def chosen (options : Registry (Option Number)) (option : String) (standard : Option Number) :
    Option Number :=
  (options.get? option).getD standard

/-- The generator of a strategy with the options chosen for it. A scatter layout without a seed is
seeded by `entropy`. An option that the strategy does not have makes every call fail. -/
def generator {σ : Type} (s : Strategy) (options : Registry (Option Number)) (entropy : Nat) :
    Generator σ :=
  let value := chosen options
  .ofFunction fun existing names =>
    if options.keys.all (· ∈ s.optionNames) then
      match s with
      | .circular =>
        let standard := Circular.Options.standard
        Circular.place ⟨value "radius" standard.radius, value "schema_spacing" standard.spacing⟩
          existing names
      | .scatter =>
        let standard := Scatter.Options.standard
        Scatter.place
          ⟨value "seed" standard.seed, value "width" standard.width,
            value "height" standard.height, value "margin" standard.margin, entropy⟩
          existing names
    else .error .missingOption

end Strategy

end SchemaCanvas
