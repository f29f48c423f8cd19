import SchemaCanvas.Settings.Value

/-!
# The tables of a TOML document

A document is built up by putting values under dotted keys, with headers that open a table or one
more table of a list. What has been defined once cannot be defined again: a table opened by a header
or by a dotted key is closed for later headers, and inline values cannot be extended.
-/

namespace SchemaCanvas.Toml

/-- A dotted key. -/
abbrev Key := List String

/-- The items of a table. -/
abbrev Items := List (String × Value)

/-- The items with `value` under `key`, in the place of a value already there or at the end. -/
def put (key : String) (value : Value) : Items → Items
  | [] => [(key, value)]
  | item :: items => if item.1 = key then (key, value) :: items else item :: put key value items

/-- Changes the table that a key leads to, opening tables on the way. Through a list of tables the
way goes into its last table, if `intoLists` allows that. -/
def change (intoLists : Bool) (f : Items → Option Items) : Key → Items → Option Items
  | [], items => f items
  | part :: key, items =>
    match Value.find? part items with
    | none => (change intoLists f key []).map fun inner => put part (.table inner) items
    | some (.table inner) =>
      (change intoLists f key inner).map fun inner => put part (.table inner) items
    | some (.list values) =>
      if intoLists then
        match values.getLast? with
        | some (.table inner) =>
          (change intoLists f key inner).map fun inner =>
            put part (.list (values.dropLast ++ [.table inner])) items
        | _ => none
      else none
    | some _ => none

/-- Puts a value under a name that is not in use. -/
def define (name : String) (value : Value) (items : Items) : Option Items :=
  match Value.find? name items with
  | some _ => none
  | none => some (items ++ [(name, value)])

/-- Adds an empty table to the list of tables under a name, which may be new. -/
def appendTable (name : String) (items : Items) : Option Items :=
  match Value.find? name items with
  | none => some (items ++ [(name, .list [.table []])])
  | some (.list values) => some (put name (.list (values ++ [.table []])) items)
  | some _ => none

/-- Whether the value holds further values. -/
def isCompound : Value → Bool
  | .list _ | .table _ => true
  | _ => false

/-- A document so far: its items, the header that is in force, the keys of tables that may not be
opened again, those that will be closed by the next header, and the keys of inline values. -/
structure Document where
  items : Items
  header : Key
  closed : List Key
  closing : List Key
  inline : List Key

namespace Document

/-- The document before its first line. -/
def empty : Document :=
  ⟨[], [], [], [], []⟩

/-- Whether a key leads to or into an inline value. -/
def isInline (d : Document) (key : Key) : Bool :=
  d.inline.any (·.isPrefixOf key)

/-- The document when its next header is met. -/
def settle (d : Document) : Document :=
  { d with closed := d.closing ++ d.closed, closing := [] }

/-- Opens a table. -/
def openTable (d : Document) (key : Key) : Option Document :=
  if key ∈ d.closed ∨ d.isInline key then none
  else (change true some key d.items).map fun items =>
    { d with items, header := key, closed := key :: d.closed }

/-- Opens one more table of a list of tables. What was defined in the table before it is no longer
in the way. -/
def openListItem (d : Document) (key : Key) : Option Document :=
  if d.isInline key then none
  else
    let free (keys : List Key) : List Key := keys.filter fun other => !key.isPrefixOf other
    match key.getLast? with
    | none => none
    | some name =>
      (change true (appendTable name) key.dropLast d.items).map fun items =>
        { d with items, header := key, closed := key :: free d.closed, inline := free d.inline }

/-- The keys of the tables that a dotted key opens below a header. -/
def opened (header key : Key) : List Key :=
  (List.range (key.length - 1)).map fun i => header ++ key.take (i + 1)

/-- Puts a value under a dotted key of the table in force. -/
def assign (d : Document) (key : Key) (value : Value) : Option Document :=
  let tables := opened d.header key
  let parent := d.header ++ key.dropLast
  match key.getLast? with
  | none => none
  | some name =>
    if tables.any (· ∈ d.closed) ∨ (parent ≠ [] ∧ d.isInline parent) then none
    else (change true (define name value) parent d.items).map fun items =>
      { d with
        items
        closing := tables ++ d.closing
        inline := if isCompound value then (d.header ++ key) :: d.inline else d.inline }

end Document

/-- The items of an inline table with one more value under a dotted key; `inline` holds the keys of
the compound values in it. -/
def assignInline (inline : List Key) (key : Key) (value : Value) (items : Items) : Option Items :=
  match key.getLast? with
  | none => none
  | some name =>
    if inline.any (·.isPrefixOf key) then none
    else change false (define name value) key.dropLast items

end SchemaCanvas.Toml
