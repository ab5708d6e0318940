/-!
# Numbers in base 64

A segment of a source map is a row of numbers. Each number takes one or more base-64 digits, the
lowest five bits first; the sixth bit says that another digit follows, and the lowest bit of the
number is its sign.
-/

namespace ChunkBridge.SourceMap.Vlq

/-- The base-64 digits in order. -/
def alphabet : List Char :=
  "ABCDEFGHIJKLMNOPQRSTUVWXYZabcdefghijklmnopqrstuvwxyz0123456789+/".toList

/-- The digit with a value below 64. -/
def digit (n : Nat) : Char := alphabet.getD n 'A'

/-- The digits of a number; at least one. -/
def digits (n : Nat) : List Char :=
  if n < 32 then [digit n] else digit (32 + n % 32) :: digits (n / 32)
termination_by n

/-- A number with its sign in the lowest bit. -/
def encode (n : Int) : List Char :=
  digits (if n < 0 then 2 * n.natAbs + 1 else 2 * n.natAbs)

/-- Why a segment is no row of numbers. -/
inductive Fault where
  /-- The last number has no end. -/
  | leftover
  | noValues
  /-- A number has too many digits. -/
  | overflow
deriving Repr, DecidableEq

/-- The value of a character: its place in the alphabet. One that is not in it counts as a digit
with all bits set that more digits follow. -/
def value (c : Char) : Nat :=
  match alphabet.findIdx? (· == c) with
  | some n => n
  | none => 63

/-- The number read so far, in 64 bits. -/
def wrap (n : Int) : Int := n.bmod (Nat.pow 2 64)

/-- The number whose bits are `n`. -/
def ofBits (n : Int) : Int :=
  let half := Int.shiftRight n 1
  if n % 2 == 1 then wrap (-half) else half

/-- The bytes of a segment as digits: a character outside of the alphabet takes as many digits as
it takes bytes. -/
def values (c : Char) : List Nat := List.replicate c.utf8Size (value c)

/-- Reads digits: `acc` holds the bits so far, below `shift`. -/
def numbers (acc : Int) (shift : Nat) : List Nat → Except Fault (List Int)
  | [] => if acc != 0 || shift != 0 then .error .leftover else .ok []
  | d :: ds =>
    if shift ≥ 64 then .error .overflow
    else
      let acc := wrap (acc + wrap ↑(d % 32 * Nat.pow 2 shift))
      if d < 32 then do return ofBits acc :: (← numbers 0 0 ds)
      else numbers acc (shift + 5) ds

/-- The numbers of a segment. -/
def decode (segment : List Char) : Except Fault (List Int) := do
  match ← numbers 0 0 (segment.flatMap values) with
  | [] => .error .noValues
  | ns => return ns

end ChunkBridge.SourceMap.Vlq
