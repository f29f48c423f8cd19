import SchemaCanvas.Text.Blank
import SchemaCanvas.Text.Lines
import SchemaCanvas.Text.Search
import SchemaCanvas.Text.Word

/-!
# The layout block of a file

The layout of a file is kept in a comment of it, the block. It opens with `/*`, blanks, and the
marker `@erd-pets`, which no word character may follow, and goes on to the first `*/`. The first
block of a file counts. `Block.locate` cuts a text at its block; the pieces make up the text
(`Block.text_locate`). `Block.splice` puts another block in the place of the first one.
-/

namespace SchemaCanvas.Block

/-- The word that marks a comment as a block. -/
def marker : List Char :=
  ['@', 'e', 'r', 'd', '-', 'p', 'e', 't', 's']

/-- What opens a comment. -/
def commentOpen : List Char :=
  ['/', '*']

/-- What closes a comment. -/
def commentClose : List Char :=
  ['*', '/']

/-- The text after `start`, when the text starts with it. -/
def after? (start cs : List Char) : Option (List Char) :=
  if start.isPrefixOf cs then some (cs.drop start.length) else none

/-- Takes the opening of a block off the front of a text: the opening and what follows it. -/
def opening? (cs : List Char) : Option (List Char × List Char) := do
  let body ← after? commentOpen cs
  let blanks := body.takeWhile Text.isBlank
  let rest ← after? marker (body.dropWhile Text.isBlank)
  if rest.head?.any Text.isWord then none
  else some (commentOpen ++ blanks ++ marker, rest)

/-- The pieces of a text around the first opening: what stands before it, the opening, and what
follows. -/
def findOpening : List Char → Option (List Char × List Char × List Char)
  | [] => none
  | c :: cs =>
    match opening? (c :: cs) with
    | some (opening, rest) => some ([], opening, rest)
    | none => (findOpening cs).map fun found => (c :: found.1, found.2)

/-- A text cut at its block. -/
structure Located where
  before : List Char
  opening : List Char
  content : List Char
  after : List Char
  deriving DecidableEq, Repr

namespace Located

/-- The block itself, from its opening to its closing mark. -/
def block (l : Located) : List Char :=
  l.opening ++ l.content ++ commentClose

/-- The whole text. -/
def text (l : Located) : List Char :=
  l.before ++ l.block ++ l.after

/-- The number of characters before the block. -/
def start (l : Located) : Nat :=
  l.before.length

/-- The number of characters up to the end of the block. -/
def stop (l : Located) : Nat :=
  l.before.length + l.block.length

/-- The line on which the content starts. -/
def line (l : Located) : Nat :=
  Text.lineFeeds (l.before ++ l.opening) + 1

end Located

/-- Cuts a text at its first block. There is none when the first opening is never closed. -/
def locate (cs : List Char) : Option Located := do
  let (before, opening, rest) ← findOpening cs
  let (content, after) ← Text.findMark commentClose rest
  return ⟨before, opening, content, after⟩

/-- The text with `block` in the place of its first block, or before everything else when the text
has no block. -/
def splice (cs block : List Char) : List Char :=
  match locate cs with
  | some l => l.before ++ block ++ l.after
  | none => block ++ '\n' :: '\n' :: cs

/-- A text goes on after a given start exactly if it is that start and then the rest. -/
theorem after?_eq_some {start cs rest : List Char} :
    after? start cs = some rest ↔ cs = start ++ rest := by
  rw [after?]
  constructor
  · intro h
    split at h
    · next hp =>
      obtain ⟨tail, rfl⟩ := List.isPrefixOf_iff_prefix.1 hp
      simpa using h
    · cases h
  · rintro rfl
    simp

/-- An opening that is found at the start of a text and what follows it are the text. -/
theorem opening?_eq_some {cs opening rest : List Char} (h : opening? cs = some (opening, rest)) :
    cs = opening ++ rest := by
  simp only [opening?, bind, Option.bind_eq_some_iff] at h
  obtain ⟨body, hb, rest', hr, h⟩ := h
  split at h
  · cases h
  · simp only [Option.some.injEq, Prod.mk.injEq] at h
    obtain ⟨rfl, rfl⟩ := h
    rw [after?_eq_some.1 hb]
    conv => lhs; rw [← List.takeWhile_append_dropWhile (p := Text.isBlank) (l := body)]
    rw [after?_eq_some.1 hr]
    simp

/-- The first opening of a text stands at its start, or else behind its first character. -/
theorem findOpening_cons_eq_some {c : Char} {cs before opening rest : List Char} :
    findOpening (c :: cs) = some (before, opening, rest) ↔
      (before = [] ∧ opening? (c :: cs) = some (opening, rest)) ∨
        ∃ between, before = c :: between ∧ opening? (c :: cs) = none ∧
          findOpening cs = some (between, opening, rest) := by
  rw [findOpening]
  cases opening? (c :: cs) with
  | some found => simp [Prod.ext_iff, eq_comm]
  | none =>
    constructor
    · intro h
      obtain ⟨⟨between, found⟩, hfound, hpair⟩ := Option.map_eq_some_iff.1 h
      obtain ⟨rfl, rfl⟩ := Prod.mk.inj hpair
      exact .inr ⟨between, rfl, rfl, hfound⟩
    · rintro (⟨-, h⟩ | ⟨between, rfl, -, hfound⟩)
      · cases h
      · rw [hfound, Option.map_some]

/-- What stands before the first opening, the opening and what follows it are the text. -/
theorem findOpening_eq_some {cs before opening rest : List Char}
    (h : findOpening cs = some (before, opening, rest)) : cs = before ++ opening ++ rest := by
  induction cs generalizing before with
  | nil => cases h
  | cons c cs ih =>
    rcases findOpening_cons_eq_some.1 h with ⟨rfl, hopening⟩ | ⟨between, rfl, -, hfound⟩
    · exact opening?_eq_some hopening
    · rw [ih hfound, List.cons_append, List.cons_append]

/-- Where an opening is found, the text goes on with it. -/
theorem opening?_of_findOpening {cs before opening rest : List Char}
    (h : findOpening cs = some (before, opening, rest)) :
    opening? (opening ++ rest) = some (opening, rest) := by
  induction cs generalizing before with
  | nil => cases h
  | cons c cs ih =>
    rcases findOpening_cons_eq_some.1 h with ⟨-, hopening⟩ | ⟨between, -, -, hfound⟩
    · rwa [← opening?_eq_some hopening]
    · exact ih hfound

/-- The pieces around a block make up the text. -/
theorem text_locate {cs : List Char} {l : Located} (h : locate cs = some l) : l.text = cs := by
  simp only [locate, bind, Option.bind_eq_some_iff, pure, Option.some.injEq] at h
  obtain ⟨⟨before, opening, rest⟩, hf, ⟨content, after⟩, hm, rfl⟩ := h
  dsimp only at hm ⊢
  rw [findOpening_eq_some hf, Text.findMark_eq_some hm]
  simp [Located.text, Located.block]

end SchemaCanvas.Block
