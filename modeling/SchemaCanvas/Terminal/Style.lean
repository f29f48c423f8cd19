import SchemaCanvas.Terminal.Colour
import SchemaCanvas.Text.Blank
import SchemaCanvas.Text.LetterCase

/-!
# Styles of text

A style is written in words: attributes, a colour, a colour for the background after `on`, and a
link. Two texts mean the same style when they have the same normal form (`Style.normalForm?`), in
which the words have their long form and a fixed order. A text that writes no style is its own
normal form, up to letter case.
-/

namespace SchemaCanvas.Terminal

/-- A style: the attributes that are set or unset, and what is known of colours and link. -/
structure Style where
  attributes : List (String × Bool)
  foreground : Option (List Char)
  background : Option (List Char)
  link : Option (List Char)

namespace Style

/-- The attributes in the order of the normal form, each with its short forms. -/
def attributeForms : List (String × List String) :=
  [("bold", ["b"]), ("dim", ["d"]), ("italic", ["i"]), ("underline", ["u"]), ("blink", []),
   ("blink2", []), ("reverse", ["r"]), ("conceal", ["c"]), ("strike", ["s"]),
   ("underline2", ["uu"]), ("frame", []), ("encircle", []), ("overline", ["o"])]

/-- The attribute that a word stands for. -/
def attribute? (word : List Char) : Option String :=
  (attributeForms.find? fun form => String.ofList word ∈ form.1 :: form.2).map Prod.fst

/-- The style that changes nothing. -/
def plain : Style :=
  ⟨[], none, none, none⟩

/-- The style with an attribute set or unset. -/
def withAttribute (s : Style) (name : String) (value : Bool) : Style :=
  { s with attributes := (name, value) :: s.attributes }

/-- What can be wrong with the words of a style. -/
inductive Fault
  /-- The words write no style. -/
  | noStyle
  /-- A component of a colour is empty. -/
  | emptyComponent

/-- The colour that a word writes. -/
def colour (word : List Char) : Except Fault (List Char) :=
  let name := Text.small word
  match isColour? name with
  | some true => .ok name
  | some false => .error .noStyle
  | none => .error .emptyComponent

/-- A word that says what the next word is. -/
inductive Keyword
  /-- The next word is the colour of the background. -/
  | on
  /-- The next word is an attribute that is unset. -/
  | without
  /-- The next word is the target of a link. -/
  | link

/-- The keyword that a word stands for. -/
def keyword? (word : List Char) : Option Keyword :=
  match String.ofList (Text.small word) with
  | "on" => some .on
  | "not" => some .without
  | "link" => some .link
  | _ => none

/-- The style with what one word says by itself: an attribute or a colour. -/
def addWord (s : Style) (word : List Char) : Except Fault Style :=
  match attribute? (Text.small word) with
  | some name => .ok (s.withAttribute name true)
  | none => do return { s with foreground := some (← colour word) }

/-- The style with what a keyword and the word after it say. -/
def addPair (s : Style) (word : List Char) : Keyword → Except Fault Style
  | .on => do return { s with background := some (← colour word) }
  | .without =>
    match attribute? word with
    | some name => .ok (s.withAttribute name false)
    | none => .error .noStyle
  | .link => .ok { s with link := some word }

/-- The style that words write after what `s` holds and after a keyword that stands before them;
later words take precedence. -/
def ofWords (s : Style) (keyword : Option Keyword) : List (List Char) → Except Fault Style
  | [] => if keyword.isSome then .error .noStyle else .ok s
  | word :: words =>
    match keyword with
    | some keyword => do (← s.addPair word keyword).ofWords none words
    | none =>
      match keyword? word with
      | some keyword => s.ofWords (some keyword) words
      | none => do (← s.addWord word).ofWords none words

/-- The words of an attribute. -/
def attributeWords (s : Style) (name : String) : List String :=
  match s.attributes.lookup name with
  | some true => [name]
  | some false => ["not", name]
  | none => []

/-- The words of the normal form. -/
def normalWords (s : Style) : List (List Char) :=
  (attributeForms.flatMap fun form => s.attributeWords form.1).map String.toList ++
    s.foreground.toList ++ (s.background.toList.flatMap fun colour => ["on".toList, colour]) ++
    s.link.toList.flatMap fun link => ["link".toList, link]

/-- The normal form of a style. -/
def text (s : Style) : List Char :=
  if s.normalWords.isEmpty then "none".toList else [' '].intercalate s.normalWords

/-- The normal form of a text, unless a component of a colour is empty. -/
def normalForm? (cs : List Char) : Option (List Char) :=
  if Text.strip cs = "none".toList then some (Text.strip cs)
  else match ofWords plain none (Text.words cs) with
    | .ok s => some s.text
    | .error .noStyle => some (Text.small (Text.strip cs))
    | .error .emptyComponent => none

end Style

end SchemaCanvas.Terminal
