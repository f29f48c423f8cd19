import SchemaCanvas.Number.Binary64

/-!
# The Mersenne twister

A generator of pseudo-random words of 32 bits with a state of 624 words, seeded from a list of
words. A draw from the unit interval is made of 53 random bits, taken from two words.
-/

namespace SchemaCanvas

/-- The state of the generator: its words, and how many of them have been given out. -/
structure MersenneTwister where
  words : Array UInt32
  used : Nat

namespace MersenneTwister

/-- The number of words of a state. -/
def size : Nat :=
  624

/-- The word at an index. -/
def wordAt (words : Array UInt32) (i : Nat) : UInt32 :=
  words.getD i 0

/-- A word mixed with its own high bits. -/
def fold (w : UInt32) : UInt32 :=
  w ^^^ (w >>> 30)

/-- The words that follow `last` in the state that a single word seeds; the first of them has the
index `i`. -/
def spread : (count : Nat) → (i : Nat) → (last : UInt32) → List UInt32
  | 0, _, _ => []
  | count + 1, i, last =>
    let word := 1812433253 * fold last + UInt32.ofNat i
    word :: spread count (i + 1) word

/-- The words of the state that a single word seeds. -/
def ofWord (seed : UInt32) : Array UInt32 :=
  (seed :: spread (size - 1) 1 seed).toArray

/-- The index after `i` in the rounds of seeding, with the words adjusted when a round ends. -/
def advance (words : Array UInt32) (i : Nat) : Array UInt32 × Nat :=
  if i + 1 < size then (words, i + 1) else (words.setIfInBounds 0 (wordAt words (size - 1)), 1)

/-- Mixes the words of a key into a state, `count` times. -/
def mixKey (key : Array UInt32) :
    (count : Nat) → (words : Array UInt32) → (i j : Nat) → Array UInt32 × Nat
  | 0, words, i, _ => (words, i)
  | count + 1, words, i, j =>
    let word :=
      (wordAt words i ^^^ (fold (wordAt words (i - 1)) * 1664525)) + wordAt key j + UInt32.ofNat j
    let (words, i) := advance (words.setIfInBounds i word) i
    mixKey key count words i (if j + 1 < key.size then j + 1 else 0)

/-- Mixes the indices into a state, `count` times. -/
def mixIndex : (count : Nat) → (words : Array UInt32) → (i : Nat) → Array UInt32
  | 0, words, _ => words
  | count + 1, words, i =>
    let word := (wordAt words i ^^^ (fold (wordAt words (i - 1)) * 1566083941)) - UInt32.ofNat i
    let (words, i) := advance (words.setIfInBounds i word) i
    mixIndex count words i

/-- The words of 32 bits of a number, the lowest first. -/
def keyWords : (count : Nat) → (n : Nat) → List UInt32
  | 0, _ => []
  | count + 1, n => UInt32.ofNat n :: keyWords count (n / Nat.pow 2 32)

/-- The key that a number stands for: its words up to the last that is not zero, at least one. -/
def key (n : Nat) : Array UInt32 :=
  (keyWords (n.log2 / 32 + 1) n).toArray

/-- The generator seeded by a number. -/
def ofSeed (n : Nat) : MersenneTwister :=
  let k := key n
  let (words, i) := mixKey k (max size k.size) (ofWord 19650218) 1 0
  ⟨(mixIndex (size - 1) words i).setIfInBounds 0 0x80000000, size⟩

/-- The word that replaces a word of the state when all have been given out. -/
def twist (words : Array UInt32) (i : Nat) : UInt32 :=
  let y := (wordAt words i &&& 0x80000000) ||| (wordAt words ((i + 1) % size) &&& 0x7fffffff)
  let shifted := wordAt words ((i + 397) % size) ^^^ (y >>> 1)
  if y &&& 1 = 0 then shifted else shifted ^^^ 0x9908b0df

/-- The state with `count` words replaced, from the index `i` on. -/
def refill : (count : Nat) → (i : Nat) → (words : Array UInt32) → Array UInt32
  | 0, _, words => words
  | count + 1, i, words => refill count (i + 1) (words.setIfInBounds i (twist words i))

/-- Evens out the bits of a word of the state. -/
def temper (w : UInt32) : UInt32 :=
  let w := w ^^^ (w >>> 11)
  let w := w ^^^ ((w <<< 7) &&& 0x9d2c5680)
  let w := w ^^^ ((w <<< 15) &&& 0xefc60000)
  w ^^^ (w >>> 18)

/-- The next word, and the generator after it. -/
def next (m : MersenneTwister) : UInt32 × MersenneTwister :=
  let m := if m.used < size then m else ⟨refill size 0 m.words, 0⟩
  (temper (wordAt m.words m.used), ⟨m.words, m.used + 1⟩)

/-- The next draw from the unit interval, and the generator after it. -/
def draw (m : MersenneTwister) : Binary64 × MersenneTwister :=
  let (a, m) := m.next
  let (b, m) := m.next
  (.nearest false ((a.toNat >>> 5) * Nat.pow 2 26 + (b.toNat >>> 6)) (Nat.pow 2 53), m)

end MersenneTwister

end SchemaCanvas
