/-!
# Decimal numbers

A number as it is written: digits and a power of ten. A program that keeps numbers in 64 binary
digits sees the nearest of those numbers instead, and writes it with the fewest decimal digits
that read back as the same. Everything here is exact arithmetic on whole numbers.
-/

namespace ChunkBridge.Text

/-- The number `± digits · 10 ^ exponent`. -/
structure Decimal where
  negative : Bool
  digits : Nat
  exponent : Int
deriving Repr, DecidableEq, Inhabited

/-- The number `significand · 2 ^ exponent`. -/
structure Binary where
  significand : Nat
  exponent : Int
deriving Repr, DecidableEq

namespace Decimal

/-- The whole number nearest to a quotient; a tie goes to the even one. -/
def roundDiv (n d : Nat) : Nat :=
  let q := n / d
  let r := n % d
  if 2 * r < d then q
  else if d < 2 * r then q + 1
  else q + q % 2

/-- A power with a whole exponent, as a fraction. -/
def power (base : Nat) (e : Int) : Nat × Nat := (base.pow e.toNat, base.pow (-e).toNat)

/-- The digits in decimal. -/
def digitText (d : Decimal) : String := toString d.digits

/-- The position of the leading digit, counted from the decimal point. -/
def magnitude (d : Decimal) : Int := d.digitText.length + d.exponent

/-- The number is not too large for 64 binary digits. -/
def isFinite (d : Decimal) : Bool :=
  if d.digits == 0 || d.magnitude < 300 then true
  else if d.magnitude > 310 then false
  else
    let (up, down) := power 10 d.exponent
    d.digits * up < (Nat.pow 2 1024 - Nat.pow 2 970) * down

/-- The nearest number with a significand of at most 53 binary digits. -/
def nearest (d : Decimal) : Binary :=
  if d.digits == 0 || d.magnitude < -330 then ⟨0, -1074⟩
  else
    let (up, down) := power 10 d.exponent
    let (n, m) := (d.digits * up, down)
    let size : Int := (n.log2 : Int) - m.log2
    let q := if n * (power 2 (-size)).1 < m * (power 2 size).1 then size - 53 else size - 52
    let q := max q (-1074)
    let s := roundDiv (n * (power 2 (-q)).1) (m * (power 2 q).1)
    if s == Nat.pow 2 53 then ⟨Nat.pow 2 52, q + 1⟩ else ⟨s, q⟩

end Decimal

namespace Binary

/-- The decimal `k · 10 ^ p` reads back as this number. -/
def isRead (b : Binary) (k : Nat) (p : Int) : Bool :=
  Decimal.nearest ⟨false, k, p⟩ == b

/-- The shortest decimal with `n` or more digits that reads back, looking at no more than `fuel`
lengths. Of the two neighbours on a grid the nearer one is taken. -/
def shortest (b : Binary) : Nat → Nat → Nat × Int
  | 0, _ => (b.significand, 0)
  | fuel + 1, n =>
    let (up, down) := Decimal.power 2 b.exponent
    let (num, den) := (b.significand * up, down)
    let lead : Int := (toString (num * Nat.pow 10 400 / den)).length - 400
    let p := lead - n
    let (tenUp, tenDown) := Decimal.power 10 p
    let (num, den) := (num * tenDown, den * tenUp)
    let low := num / den
    let near := Decimal.roundDiv num den
    let far := if near == low then low + 1 else low
    if b.isRead near p then (near, p)
    else if b.isRead far p then (far, p)
    else shortest b fuel (n + 1)

end Binary

namespace Decimal

/-- Digits with the point at its place and at least one digit on both sides of it. -/
def positional (digits : String) (exponent : Int) : String :=
  let cs := digits.toList
  if 0 ≤ exponent then digits ++ String.ofList (List.replicate exponent.toNat '0') ++ ".0"
  else
    let places := (-exponent).toNat
    let padded := List.replicate (places + 1 - cs.length) '0' ++ cs
    let cut := padded.length - places
    String.ofList (padded.take cut) ++ "." ++ String.ofList (padded.drop cut)

/-- The fewest digits that read back as the same binary number, without an exponent. -/
def shortest (d : Decimal) : String :=
  let b := d.nearest
  let text :=
    if b.significand == 0 then "0.0"
    else
      let (k, p) := b.shortest 17 1
      positional (toString k) p
  (if d.negative then "-" else "") ++ text

end Decimal
end ChunkBridge.Text
