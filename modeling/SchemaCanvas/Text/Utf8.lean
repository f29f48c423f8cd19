import SchemaCanvas.Text.Literal

/-!
# Reading text from bytes

Text is stored in the UTF-8 encoding. Bytes that are no text are reported with the place of the
first fault: a byte that starts no character, a character whose first bytes nothing can continue, or
one that the bytes end in.
-/

namespace SchemaCanvas.Text

/-- Why bytes are no text. -/
inductive DecodeReason
  | invalidStart
  | invalidContinuation
  | unexpectedEnd
  deriving DecidableEq, Repr

/-- A fault in bytes: the position and the values of the bytes at fault, and the reason. -/
structure DecodeError where
  position : Nat
  bytes : List UInt8
  reason : DecodeReason
  deriving DecidableEq, Repr

/-- The wording of a reason. -/
def DecodeReason.message : DecodeReason → String
  | .invalidStart => "invalid start byte"
  | .invalidContinuation => "invalid continuation byte"
  | .unexpectedEnd => "unexpected end of data"

/-- The wording of a fault. -/
def DecodeError.message (e : DecodeError) : String :=
  let where_ := match e.bytes with
    | [byte] =>
      "byte 0x" ++ String.ofList (hex 2 byte.toNat) ++ " in position " ++ toString e.position
    | bytes =>
      "bytes in position " ++ toString e.position ++ "-" ++
        toString (e.position + bytes.length - 1)
  "'utf-8' codec can't decode " ++ where_ ++ ": " ++ e.reason.message

/-- The number of bytes that follow the first byte of a character. -/
def followers? (first : UInt8) : Option Nat :=
  if first < 0x80 then some 0
  else if first < 0xC2 then none
  else if first < 0xE0 then some 1
  else if first < 0xF0 then some 2
  else if first < 0xF5 then some 3
  else none

/-- Whether a byte can be the second of a character, which rules out characters written too long,
surrogates, and numbers past the last character. -/
def isSecond (first second : UInt8) : Bool :=
  let least : UInt8 := if first = 0xE0 then 0xA0 else if first = 0xF0 then 0x90 else 0x80
  let greatest : UInt8 := if first = 0xED then 0x9F else if first = 0xF4 then 0x8F else 0xBF
  least ≤ second && second ≤ greatest

/-- Whether a byte can be one of the later bytes of a character. -/
def isLater (byte : UInt8) : Bool :=
  0x80 ≤ byte && byte ≤ 0xBF

/-- Takes the later bytes of a character: those taken already stand in `taken`, the last one first.
The answer holds the bytes of the character, or those at fault with the reason. -/
def takeLater (first : UInt8) : (count : Nat) → (taken rest : List UInt8) →
    Except (List UInt8 × DecodeReason) (List UInt8 × List UInt8)
  | 0, taken, rest => .ok (taken.reverse, rest)
  | _ + 1, taken, [] => .error (taken.reverse, .unexpectedEnd)
  | count + 1, taken, byte :: rest =>
    let fits := if taken.length = 1 then isSecond first byte else isLater byte
    if fits then takeLater first count (byte :: taken) rest
    else .error (taken.reverse, .invalidContinuation)

/-- The number of the character that bytes encode. -/
def codePoint : List UInt8 → Nat
  | [] => 0
  | first :: later =>
    let high := match later.length with
      | 0 => first.toNat
      | 1 => first.toNat % 0x20
      | 2 => first.toNat % 0x10
      | _ => first.toNat % 0x08
    later.foldl (fun n byte => 0x40 * n + byte.toNat % 0x40) high

/-- Takes a character off the front of bytes that start with `first`. -/
def takeChar (first : UInt8) (rest : List UInt8) :
    Except (List UInt8 × DecodeReason) (List UInt8 × List UInt8) :=
  match followers? first with
  | none => .error ([first], .invalidStart)
  | some count => takeLater first count [first] rest

/-- The characters of bytes, the first of which has the given position; `fuel` bounds their
number. -/
def decodeFrom : (fuel position : Nat) → List UInt8 → Except DecodeError (List Char)
  | 0, _, _ => .ok []
  | _ + 1, _, [] => .ok []
  | fuel + 1, position, first :: rest =>
    match takeChar first rest with
    | .error (bytes, reason) => .error ⟨position, bytes, reason⟩
    | .ok (bytes, rest) =>
      (decodeFrom fuel (position + bytes.length) rest).map (Char.ofNat (codePoint bytes) :: ·)

/-- The text that bytes encode. -/
def decode (bytes : List UInt8) : Except DecodeError String :=
  (decodeFrom bytes.length 0 bytes).map String.ofList

end SchemaCanvas.Text
