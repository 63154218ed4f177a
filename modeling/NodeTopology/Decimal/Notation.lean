import NodeTopology.Decimal.Shortest
import NodeTopology.Text.Digits
/-!
How a floating-point number is written: the shortest digits that read back, positionally when the
first digit stands for `10 ^ (-4)` up to `10 ^ 15` and with an exponent otherwise, always with a
fraction or an exponent so that it does not look like an integer.
-/

namespace NodeTopology.Decimal

open Text

/-- Digits before and after the point, the first digit standing for `10 ^ (point - 1)`. -/
def positional (digits : List Char) (point : Int) : List Char :=
  if point ≤ 0 then '0' :: '.' :: (List.replicate (-point).toNat '0' ++ digits)
  else
    let whole := digits.take point.toNat
    let fraction := digits.drop point.toNat
    whole ++ List.replicate (point.toNat - digits.length) '0'
      ++ '.' :: (if fraction.isEmpty then ['0'] else fraction)

/-- One digit, the others after a point if there are any, and an exponent of two digits or more. -/
def exponential (digits : List Char) (point : Int) : List Char :=
  let exponent := point - 1
  let sign := if exponent < 0 then '-' else '+'
  let fraction := digits.drop 1
  digits.take 1 ++ (if fraction.isEmpty then [] else '.' :: fraction)
    ++ 'e' :: sign :: paddedDigits 10 2 exponent.natAbs

def Scaled.text (d : Scaled) : List Char :=
  let digits := Nat.toDigits 10 d.digits
  let point := d.exponent + digits.length
  if -4 < point ∧ point ≤ 16 then positional digits point else exponential digits point

def signBit : Nat := 0x8000000000000000

/-- The bits of infinity; whatever lies above them is no number. -/
def infinityBits : Nat := 0x7FF0000000000000

def textOfBits (bits : Nat) : String :=
  let magnitude := bits % signBit
  let sign := if bits / signBit = 1 then ['-'] else []
  if infinityBits < magnitude then "nan"
  else if magnitude = infinityBits then String.ofList (sign ++ ['i', 'n', 'f'])
  else if magnitude = 0 then String.ofList (sign ++ ['0', '.', '0'])
  else String.ofList (sign ++ (shortest magnitude).text)

def textOfFloat (x : Float) : String := textOfBits x.toBits.toNat

/-- The double nearest to `digits * 10 ^ exponent`.  Beyond the range of doubles the answer is known
without computing the power: nothing above `10 ^ 400` is finite, and what lies below `10 ^ (-400)`
rounds to zero. -/
def toFloat (digits : Nat) (exponent : Int) : Float :=
  let magnitude := exponent + (Nat.toDigits 10 digits).length
  if digits = 0 || magnitude < -400 then 0.0
  else if 400 < magnitude then 1.0 / 0.0
  else Float.ofScientific digits (exponent < 0) exponent.natAbs

end NodeTopology.Decimal
