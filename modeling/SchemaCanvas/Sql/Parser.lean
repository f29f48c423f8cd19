import SchemaCanvas.Sql.SyntaxError

/-!
# Parsers on lists of tokens

A parser takes tokens off the front of a list. It answers with a value or with the cause of a
failure, and in both cases with the tokens that are left, since what follows a failure starts from
there. `Parser.Shortens` says that a parser leaves a tail of the list it was given; it holds of
the small parsers here and is kept by sequencing.
-/

namespace SchemaCanvas.Sql

/-- Reads a value off the front of a list of tokens. -/
abbrev Parser (α : Type) := EStateM SyntaxError (List Token) α

/-- What a parser answers: a value or a cause, and the tokens left. -/
abbrev Parser.Answer (α : Type) := EStateM.Result SyntaxError (List Token) α

/-- The tokens that an answer leaves. -/
def Parser.left {α : Type} : Parser.Answer α → List Token
  | .ok _ rest => rest
  | .error _ rest => rest

namespace Parser

variable {α β : Type}

/-- The parser leaves a tail of the tokens that it is given. -/
def Shortens (p : Parser α) : Prop :=
  ∀ ts, left (p ts) <:+ ts

/-- Fails because something else is wanted than what the tokens start with. -/
def failWanted (wanted : Wanted) : Parser α := fun ts =>
  .error (.expected wanted (Found.first ts)) ts

/-- Takes the first token if it is as asked, and answers whether it is. -/
def accept (p : Token → Bool) : Parser Bool
  | [] => .ok false []
  | t :: ts => if p t then .ok true ts else .ok false (t :: ts)

/-- Takes the first token, which must be as asked. -/
def require (wanted : Wanted) (p : Token → Bool) : Parser Unit
  | [] => failWanted wanted []
  | t :: ts => if p t then .ok () ts else failWanted wanted (t :: ts)

/-- Takes a punctuation mark if it comes first. -/
def acceptMark (mark : String) : Parser Bool :=
  accept (·.isMark mark)

/-- Takes a bare word, given in capitals, if it comes first. -/
def acceptKeyword (word : String) : Parser Bool :=
  accept (·.isKeyword word)

/-- Takes a punctuation mark, which must come first. -/
def requireMark (mark : String) : Parser Unit :=
  require (.value mark) (·.isMark mark)

/-- Takes a bare word, given in capitals, which must come first. -/
def requireKeyword (word : String) : Parser Unit :=
  require (.keyword word) (·.isKeyword word)

/-- Fails with `cause` unless the condition holds. -/
def ensure (condition : Bool) (cause : SyntaxError) : Parser Unit :=
  if condition then pure () else throw cause

/-- Whether the first token is as asked. -/
def startsWith (p : Token → Bool) : Parser Bool := fun ts =>
  .ok (ts.head?.any p) ts

/-- Answering without reading leaves all tokens. -/
theorem Shortens.pure (a : α) : Shortens (Pure.pure a : Parser α) :=
  fun ts => List.suffix_refl ts

/-- Failing without reading leaves all tokens. -/
theorem Shortens.throw (e : SyntaxError) : Shortens (throw e : Parser α) :=
  fun ts => List.suffix_refl ts

/-- What a parser leaves that succeeds is a tail of what it was given. -/
theorem Shortens.of_ok {p : Parser α} (hp : Shortens p) {ts rest : List Token} {a : α}
    (h : p ts = .ok a rest) : rest <:+ ts := by
  have hleft := hp ts
  rwa [h] at hleft

/-- What a parser leaves that fails is a tail of what it was given. -/
theorem Shortens.of_error {p : Parser α} (hp : Shortens p) {ts rest : List Token}
    {cause : SyntaxError} (h : p ts = .error cause rest) : rest <:+ ts := by
  have hleft := hp ts
  rwa [h] at hleft

/-- A sequence leaves a tail of the tokens when both of its parts do, whatever the first answers. -/
theorem Shortens.bind {p : Parser α} {f : α → Parser β} (hp : Shortens p)
    (hf : ∀ a, Shortens (f a)) : Shortens (p >>= f) := by
  intro ts
  change left (EStateM.bind p f ts) <:+ ts
  unfold EStateM.bind
  split
  · next a rest he => exact (hf a rest).trans (hp.of_ok he)
  · next e rest he => exact hp.of_error he

/-- A choice leaves a tail of the tokens when both sides do. -/
theorem Shortens.ite {c : Prop} [Decidable c] {p q : Parser α} (hp : Shortens p)
    (hq : Shortens q) : Shortens (if c then p else q) := by
  split <;> assumption

/-- A token that is taken if it is as asked leaves a tail of the tokens. -/
theorem shortens_accept (p : Token → Bool) : Shortens (accept p) := by
  intro ts
  cases ts with
  | nil => exact List.suffix_refl _
  | cons t ts =>
    show left (if p t then .ok true ts else .ok false (t :: ts)) <:+ _
    split
    · exact List.suffix_cons t ts
    · exact List.suffix_refl _

/-- A token that must be as asked leaves a tail of the tokens, also where it is missing. -/
theorem shortens_require (wanted : Wanted) (p : Token → Bool) : Shortens (require wanted p) := by
  intro ts
  cases ts with
  | nil => exact List.suffix_refl _
  | cons t ts =>
    show left (if p t then .ok () ts else failWanted wanted (t :: ts)) <:+ _
    split
    · exact List.suffix_cons t ts
    · exact List.suffix_refl _

/-- A condition is checked without taking tokens. -/
theorem shortens_ensure (condition : Bool) (cause : SyntaxError) :
    Shortens (ensure condition cause) :=
  .ite (.pure _) (.throw _)

/-- The first token is looked at without being taken. -/
theorem shortens_startsWith (p : Token → Bool) : Shortens (startsWith p) :=
  fun ts => List.suffix_refl ts

end Parser

end SchemaCanvas.Sql
