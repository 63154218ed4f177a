/-!
Numerals as lists of characters: the value of a run of digits, the value of one hexadecimal digit,
and numerals filled up with zeros to a fixed width.
-/

namespace NodeTopology.Text

/-- A decimal digit of ASCII. -/
def isDecimal (c : Char) : Bool := '0' ≤ c && c ≤ '9'

/-- The value of a hexadecimal digit of either case. -/
def hexValue? (c : Char) : Option Nat :=
  if '0' ≤ c && c ≤ '9' then some (c.toNat - '0'.toNat)
  else if 'a' ≤ c && c ≤ 'f' then some (c.toNat - 'a'.toNat + 10)
  else if 'A' ≤ c && c ≤ 'F' then some (c.toNat - 'A'.toNat + 10)
  else none

def isHex (c : Char) : Bool := (hexValue? c).isSome

/-- The number that digits of the given base denote, the most significant first.  A character that
is no digit counts as zero. -/
def numeral (base : Nat) (digits : List Char) : Nat :=
  digits.foldl (fun value c => value * base + (hexValue? c).getD 0) 0

/-- The digits of a number, filled up with zeros on the left to a least width. -/
def paddedDigits (base width n : Nat) : List Char :=
  let digits := Nat.toDigits base n
  List.replicate (width - digits.length) '0' ++ digits

def padded (width n : Nat) : String := String.ofList (paddedDigits 10 width n)

/-- Read exactly `count` decimal digits. -/
def takeDecimals? (count : Nat) (text : List Char) : Option (Nat × List Char) :=
  let digits := text.take count
  if digits.length = count && digits.all isDecimal then
    some (numeral 10 digits, text.drop count)
  else none

end NodeTopology.Text
