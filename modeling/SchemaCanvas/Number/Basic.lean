import SchemaCanvas.Number.Decimal

/-!
# Numbers of a layout

A coordinate or a layout option is either a whole number of any size or a real number of double
precision. Whole numbers are added exactly; as soon as a real number takes part, the whole one is
made real, which fails when it is out of range. Comparison is exact in all cases.
-/

namespace SchemaCanvas

/-- A whole number, or a real number of double precision. -/
inductive Number
  | whole (n : Int)
  | real (x : Binary64)
  deriving DecidableEq

/-- Why a number cannot be computed. -/
inductive NumberError
  /-- A whole number is too large to be made real. -/
  | tooLarge
  /-- An infinity has no nearest whole number. -/
  | infinite
  /-- What is no number has no nearest whole number. -/
  | notANumber
  deriving DecidableEq, Repr

/-- The wording of a cause. -/
def NumberError.message : NumberError → String
  | .tooLarge => "int too large to convert to float"
  | .infinite => "cannot convert float infinity to integer"
  | .notANumber => "cannot convert float NaN to integer"

/-- The nearest whole number; one that is halfway goes to the even neighbour. -/
def Binary64.round : Binary64 → Except NumberError Int
  | .finite negative units _ => .ok (signed negative (halfEven units unitsPerOne))
  | .infinite _ => .error .infinite
  | .nan => .error .notANumber

namespace Number

/-- The number as a real one. -/
def toReal : Number → Except NumberError Binary64
  | .whole n =>
    match Binary64.ofInt n with
    | .infinite _ => .error .tooLarge
    | x => .ok x
  | .real x => .ok x

/-- The nearest whole number; one that is halfway goes to the even neighbour. -/
def round : Number → Except NumberError Int
  | .whole n => .ok n
  | .real x => x.round

/-- The sum. -/
def add : Number → Number → Except NumberError Number
  | .whole m, .whole n => .ok (.whole (m + n))
  | a, b => do return .real ((← a.toReal).add (← b.toReal))

/-- The product with a real number. -/
def scale (a : Number) (x : Binary64) : Except NumberError Number := do
  return .real ((← a.toReal).mul x)

/-- The exact size of a number in units of the smallest positive real one; infinities and what is no
number have none. -/
def units? : Number → Option Int
  | .whole n => some (n * Binary64.unitsPerOne)
  | .real (.finite negative units _) => some (Binary64.signed negative units)
  | .real _ => none

/-- Whether the first number is less than the second. -/
def lt (a b : Number) : Bool :=
  match a.units?, b.units? with
  | some m, some n => decide (m < n)
  | _, _ =>
    match a, b with
    | .real x, .real y => x.lt y
    | .real (.infinite negative), .whole _ => negative
    | .whole _, .real (.infinite negative) => !negative
    | _, _ => false

/-- Whether the two have the same value: the two zeros are the same, and so are a whole number and
the real number of its size. -/
def same (a b : Number) : Bool :=
  match a.units?, b.units? with
  | some m, some n => decide (m = n)
  | none, none => decide (a = b)
  | _, _ => false

/-- Whether the number is zero. -/
def isZero (a : Number) : Bool :=
  decide (a.units? = some 0)

/-- The first of the greatest numbers of a list that starts with `a`. -/
def greatest (a : Number) (more : List Number) : Number :=
  more.foldl (fun best b => if best.lt b then b else best) a

/-- The first of the least numbers of a list that starts with `a`. -/
def least (a : Number) (more : List Number) : Number :=
  more.foldl (fun best b => if b.lt best then b else best) a

/-- The text of the number: the digits of a whole one, the shortest text of a real one. -/
def text (names : Decimal.Names) : Number → String
  | .whole n => toString n
  | .real x => Decimal.text names x

end Number

end SchemaCanvas
