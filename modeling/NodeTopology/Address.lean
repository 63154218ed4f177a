import NodeTopology.Text.Digits
/-!
Literals of Internet addresses.  Version 4: four decimal fields from 0 to 255 without leading
zeros, so every address has one spelling.  Version 6: eight groups of one to four hexadecimal
digits, one run of zero groups of which may be left out, the last two groups perhaps written as a
version 4 address, and perhaps a scope after a percent sign.
-/

namespace NodeTopology

/-- An address of version 4, the most significant field first. -/
structure Address4 where
  a : UInt8
  b : UInt8
  c : UInt8
  d : UInt8
deriving Repr, DecidableEq

namespace Address4

/-- One field of a literal. -/
def field? (text : List Char) : Option UInt8 :=
  if text.isEmpty || 3 < text.length || !text.all Text.isDecimal then none
  else if text.head? == some '0' && text != ['0'] then none
  else
    let value := Text.numeral 10 text
    if value ≤ 255 then some (UInt8.ofNat value) else none

def ofLiteral? (text : List Char) : Option Address4 :=
  match text.splitOn '.' with
  | [a, b, c, d] => do
      some ⟨← field? a, ← field? b, ← field? c, ← field? d⟩
  | _ => none

def literal (address : Address4) : List Char :=
  let field := fun (part : UInt8) => Nat.toDigits 10 part.toNat
  field address.a ++ '.' :: (field address.b ++ '.' :: (field address.c ++ '.' :: field address.d))

/-- The address as a number below `2 ^ 32`. -/
def toNat (address : Address4) : Nat :=
  ((address.a.toNat * 256 + address.b.toNat) * 256 + address.c.toNat) * 256 + address.d.toNat

end Address4

namespace Address6

/-- One group: one to four hexadecimal digits. -/
def isGroup (text : List Char) : Bool :=
  1 ≤ text.length && text.length ≤ 4 && text.all Text.isHex

/-- How many groups a colon-separated run stands for, if all its parts are well formed.  The last
part may be an address of version 4, which stands for two. -/
def groups? (lastMayBeVersion4 : Bool) : List (List Char) → Option Nat
  | [] => some 0
  | [last] =>
      if isGroup last then some 1
      else if lastMayBeVersion4 && (Address4.ofLiteral? last).isSome then some 2
      else none
  | part :: rest => if isGroup part then (groups? lastMayBeVersion4 rest).map (· + 1) else none

/-- The parts of a run; the empty text has none. -/
def parts (text : List Char) : List (List Char) :=
  if text.isEmpty then [] else text.splitOn ':'

def splitAtGap : List Char → Option (List Char × List Char)
  | ':' :: ':' :: rest => some ([], rest)
  | c :: rest => (splitAtGap rest).map fun sides => (c :: sides.1, sides.2)
  | [] => none

def isUnscoped (text : List Char) : Bool :=
  match splitAtGap text with
  | some (before, after) =>
      match groups? false (parts before), groups? true (parts after) with
      | some high, some low => high + low ≤ 7
      | _, _ => false
  | none => groups? true (parts text) == some 8

/-- Whether a text is an address of version 6.  A scope is not empty and has no second percent
sign. -/
def isLiteral (text : List Char) : Bool :=
  let address := text.takeWhile (· != '%')
  match text.drop address.length with
  | [] => isUnscoped text
  | _ :: scope => !scope.isEmpty && !scope.contains '%' && isUnscoped address

end Address6

/-- Whether a text is the literal of an Internet address.  A slash never is part of one. -/
def isAddress (text : String) : Bool :=
  !text.toList.contains '/'
    && ((Address4.ofLiteral? text.toList).isSome || Address6.isLiteral text.toList)

end NodeTopology
