/-!
The shortest decimal that reads back as a given binary number.  The numbers that round to a binary
number form an interval around it; the coarsest grid of powers of ten with a point in that interval
gives the fewest digits, and of two points on it the nearer one is taken, in a tie the even one.
-/

namespace NodeTopology.Decimal

/-- The positive binary number `mantissa * 2 ^ exponent`. -/
structure Binary where
  mantissa : Nat
  exponent : Int
deriving Repr

/-- The decimal number `digits * 10 ^ exponent`. -/
structure Scaled where
  digits : Nat
  exponent : Int
deriving Repr, DecidableEq

/-- A number over a common denominator, with the ends of the interval that rounds to it. -/
structure Window where
  low : Nat
  value : Nat
  high : Nat
  denominator : Nat
  closed : Bool

/-- The leading bit of a mantissa of 53 bits, which the bits of a double leave out. -/
def Binary.leadingBit : Nat := 0x10000000000000

/-- The binary number that the bits of a double hold, its sign apart: eleven bits of exponent over
fifty-two of mantissa, the exponent zero for numbers without the leading bit. -/
def Binary.ofBits (bits : Nat) : Binary :=
  let field : Nat := bits / leadingBit % 0x800
  let fraction : Nat := bits % leadingBit
  if field = 0 then ⟨fraction, -1074⟩ else ⟨leadingBit + fraction, (field : Int) - 1075⟩

/-- The interval that rounds to a binary number.  Below a power of two the neighbour is half as far
away; the ends belong to the interval when the mantissa is even. -/
def Binary.window (b : Binary) : Window :=
  let below := if b.mantissa = leadingBit ∧ -1074 < b.exponent then 1 else 2
  let unit := Nat.pow 2 (b.exponent - 2).toNat
  { low := (4 * b.mantissa - below) * unit
    value := 4 * b.mantissa * unit
    high := (4 * b.mantissa + 2) * unit
    denominator := Nat.pow 2 (2 - b.exponent).toNat
    closed := b.mantissa % 2 = 0 }

/-- Whether `point / scale` lies in the interval, over the window's denominator. -/
def Window.holds (w : Window) (point scale : Nat) : Bool :=
  let here := point * w.denominator
  if w.closed then w.low * scale ≤ here && here ≤ w.high * scale
  else w.low * scale < here && here < w.high * scale

/-- The point of the grid `10 ^ exponent` in the interval that is nearest to the value. -/
def Window.onGrid? (w : Window) (exponent : Int) : Option Nat :=
  let up := Nat.pow 10 exponent.toNat
  let scale := Nat.pow 10 (-exponent).toNat
  let inside := fun digits => w.holds (digits * up) scale
  let step := up * w.denominator
  let floor := w.value * scale / step
  let rest := w.value * scale % step
  match inside floor, inside (floor + 1) with
  | true, true =>
      if 2 * rest < step || (2 * rest = step && floor % 2 = 0) then some floor
      else some (floor + 1)
  | true, false => some floor
  | false, true => some (floor + 1)
  | false, false => none

/-- Try grids from `10 ^ exponent` downwards, at most `count` of them. -/
def Window.search (w : Window) (exponent : Int) : Nat → Scaled
  | 0 => ⟨0, 0⟩
  | count + 1 =>
      match w.onGrid? exponent with
      | some digits => ⟨digits, exponent⟩
      | none => w.search (exponent - 1) count

/-- The shortest decimal that reads back as the positive number that a double's bits hold.  Doubles
lie below `10 ^ 309` and differ by more than `10 ^ (-325)`, which bounds the grids to try. -/
def shortest (bits : Nat) : Scaled := (Binary.ofBits bits).window.search 309 640

end NodeTopology.Decimal
