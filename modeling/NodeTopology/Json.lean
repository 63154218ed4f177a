import NodeTopology.Decimal.Notation
import NodeTopology.Text.Digits
import NodeTopology.Value.Display
/-!
Reading JSON documents.  Beyond the standard grammar the words NaN, Infinity and -Infinity are
numbers; the last value of a repeated key wins; integers have at most 4300 digits; brackets nest as
deep as the reader has room for.  Of several faults the one that comes first in the document
decides.
-/

namespace NodeTopology.Json

inductive Refusal where
  /-- The text is no JSON document. -/
  | malformed
  /-- An integer has too many digits. -/
  | longInteger
  /-- More brackets are open at once than the reader has room for. -/
  | tooDeep
deriving Repr, DecidableEq

/-- What a reading hangs on besides the document. -/
structure Reader where
  /-- How many brackets may be open at once: what is left of the stack when the reading begins. -/
  room : Nat
  /-- What stands in a text for half of a pair of code units, which is no character.  A choice that
  is injective and avoids the characters of the document keeps all texts apart. -/
  standIn : Nat → Char

/-- A reader with the usual room that gives every half of a pair a character of its own, at the end
of those for private use. -/
def Reader.standard : Reader :=
  ⟨Value.usualRoom, fun unit => Char.ofNat (unit - 0xD800 + 0x10F800)⟩

/-- Space, tab, carriage return and line feed. -/
def isBlank (c : Char) : Bool := c = ' ' || c = '\t' || c = '\n' || c = '\r'

def skipBlanks (text : List Char) : List Char := text.dropWhile isBlank

/-- Four hexadecimal digits. -/
def unit? : List Char → Option (Nat × List Char)
  | a :: b :: c :: d :: rest =>
      if [a, b, c, d].all Text.isHex then some (Text.numeral 16 [a, b, c, d], rest) else none
  | _ => none

/-- Whether a code unit is half of a pair. -/
def isHalf (unit : Nat) : Bool := 0xD800 ≤ unit && unit ≤ 0xDFFF

/-- The character for a code unit that has no partner. -/
def ofUnit (standIn : Nat → Char) (unit : Nat) : Char :=
  if isHalf unit then standIn unit else Char.ofNat unit

/-- The character that an escape by code unit gives, two escapes together if they form a pair. -/
def readUnit (standIn : Nat → Char) (text : List Char) : Except Refusal (Char × List Char) :=
  match unit? text with
  | none => .error .malformed
  | some (high, rest) =>
      if 0xD800 ≤ high && high ≤ 0xDBFF then
        match rest with
        | '\\' :: 'u' :: more =>
            match unit? more with
            | none => .error .malformed
            | some (low, after) =>
                if 0xDC00 ≤ low && low ≤ 0xDFFF then
                  .ok (Char.ofNat (0x10000 + (high - 0xD800) * 0x400 + (low - 0xDC00)), after)
                else .ok (ofUnit standIn high, rest)
        | _ => .ok (ofUnit standIn high, rest)
      else .ok (ofUnit standIn high, rest)

/-- The character that an escape gives, from the text after the backslash. -/
def readEscape (standIn : Nat → Char) : List Char → Except Refusal (Char × List Char)
  | '"' :: rest => .ok ('"', rest)
  | '\\' :: rest => .ok ('\\', rest)
  | '/' :: rest => .ok ('/', rest)
  | 'b' :: rest => .ok ('\x08', rest)
  | 'f' :: rest => .ok ('\x0c', rest)
  | 'n' :: rest => .ok ('\n', rest)
  | 'r' :: rest => .ok ('\r', rest)
  | 't' :: rest => .ok ('\t', rest)
  | 'u' :: rest => readUnit standIn rest
  | _ => .error .malformed

/-- The rest of a string, its opening quote being read; each round reads a character or an escape.
-/
def readString (standIn : Nat → Char) :
    Nat → List Char → Except Refusal (List Char × List Char)
  | 0, _ => .error .malformed
  | _ + 1, [] => .error .malformed
  | _ + 1, '"' :: rest => .ok ([], rest)
  | rounds + 1, '\\' :: rest => do
      let (c, after) ← readEscape standIn rest
      let (more, last) ← readString standIn rounds after
      .ok (c :: more, last)
  | rounds + 1, c :: rest =>
      if c < ' ' then .error .malformed
      else do
        let (more, last) ← readString standIn rounds rest
        .ok (c :: more, last)

def digits (text : List Char) : List Char × List Char :=
  (text.takeWhile Text.isDecimal, text.dropWhile Text.isDecimal)

/-- The digits of a whole number, without leading zeros. -/
def wholeDigits? : List Char → Option (List Char × List Char)
  | '0' :: rest => some (['0'], rest)
  | text => if (digits text).1.isEmpty then none else some (digits text)

/-- The digits after a decimal point, if a point and a digit follow. -/
def fractionDigits : List Char → List Char × List Char
  | '.' :: rest => if (digits rest).1.isEmpty then ([], '.' :: rest) else digits rest
  | text => ([], text)

/-- The digits of an exponent after its mark and sign. -/
def signedExponent : List Char → Option (Int × List Char)
  | '-' :: rest =>
      if (digits rest).1.isEmpty then none
      else some (-(Text.numeral 10 (digits rest).1 : Int), (digits rest).2)
  | '+' :: rest =>
      if (digits rest).1.isEmpty then none
      else some (Text.numeral 10 (digits rest).1, (digits rest).2)
  | text =>
      if (digits text).1.isEmpty then none
      else some (Text.numeral 10 (digits text).1, (digits text).2)

/-- An exponent, if the mark is followed by one. -/
def exponent? : List Char → Option (Int × List Char)
  | 'e' :: rest => signedExponent rest
  | 'E' :: rest => signedExponent rest
  | _ => none

/-- A number, its sign being read.  It is an integer if it has neither fraction nor exponent. -/
def readNumber (negative : Bool) (text : List Char) : Except Refusal (Value × List Char) :=
  match wholeDigits? text with
  | none => .error .malformed
  | some (whole, afterWhole) =>
      let (fraction, afterFraction) := fractionDigits afterWhole
      match fraction.isEmpty, exponent? afterFraction with
      | true, none =>
          if Value.maxDigits < whole.length then .error .longInteger
          else
            let n : Int := Text.numeral 10 whole
            .ok (.int (if negative then -n else n), afterFraction)
      | _, found =>
          let (exponent, rest) := found.getD (0, afterFraction)
          let x := Decimal.toFloat (Text.numeral 10 (whole ++ fraction))
            (exponent - fraction.length)
          .ok (.float (if negative then -x else x), rest)

/-- A number, a word or nothing that begins with the given text. -/
def readPlain (text : List Char) : Except Refusal (Value × List Char) :=
  let words : Entries Value :=
    [("null", .null), ("true", .bool true), ("false", .bool false), ("NaN", .float (0.0 / 0.0)),
      ("Infinity", .float (1.0 / 0.0)), ("-Infinity", .float (-1.0 / 0.0))]
  match words.find? fun word => word.1.toList.isPrefixOf text with
  | some (word, value) => .ok (value, text.drop word.length)
  | none =>
      match text with
      | '-' :: rest => readNumber true rest
      | _ => readNumber false text

mutual

/-- A value at the start of the text; `depth` bounds how many more readers may be entered, `room`
how many more brackets may be open at once. -/
def readValue (standIn : Nat → Char) :
    Nat → Nat → List Char → Except Refusal (Value × List Char)
  | 0, _, _ => .error .malformed
  | depth + 1, room, text =>
      match text, room with
      | '"' :: rest, _ => do
          let (chars, after) ← readString standIn (rest.length + 1) rest
          .ok (.text (String.ofList chars), after)
      | '[' :: _, 0 => .error .tooDeep
      | '[' :: rest, room + 1 =>
          match skipBlanks rest with
          | ']' :: after => .ok (.list [], after)
          | inner => do
              let (items, after) ← readItems standIn depth room inner
              .ok (.list items, after)
      | '\x7b' :: _, 0 => .error .tooDeep
      | '\x7b' :: rest, room + 1 =>
          match skipBlanks rest with
          | '\x7d' :: after => .ok (.table [], after)
          | inner => readEntries standIn depth room [] inner
      | _, _ => readPlain text

/-- The items of a list from the first one on, to the closing bracket. -/
def readItems (standIn : Nat → Char) :
    Nat → Nat → List Char → Except Refusal (List Value × List Char)
  | 0, _, _ => .error .malformed
  | depth + 1, room, text => do
      let (item, after) ← readValue standIn depth room text
      match skipBlanks after with
      | ']' :: rest => .ok ([item], rest)
      | ',' :: rest =>
          let (items, last) ← readItems standIn depth room (skipBlanks rest)
          .ok (item :: items, last)
      | _ => .error .malformed

/-- The entries of a table from the next one on, to the closing bracket. -/
def readEntries (standIn : Nat → Char) :
    Nat → Nat → Entries Value → List Char → Except Refusal (Value × List Char)
  | 0, _, _, _ => .error .malformed
  | depth + 1, room, entries, text =>
      match text with
      | '"' :: rest => do
          let (key, afterKey) ← readString standIn (rest.length + 1) rest
          match skipBlanks afterKey with
          | ':' :: beforeValue =>
              let (value, after) ← readValue standIn depth room (skipBlanks beforeValue)
              let more := entries.put (String.ofList key) value
              match skipBlanks after with
              | '\x7d' :: last => .ok (.table more, last)
              | ',' :: next => readEntries standIn depth room more (skipBlanks next)
              | _ => .error .malformed
          | _ => .error .malformed
      | _ => .error .malformed

end

/-- The value of a whole document.  A bracket costs at most two rounds, any other sign one. -/
def read (reader : Reader) (document : String) : Except Refusal Value := do
  let text := skipBlanks document.toList
  let (value, rest) ← readValue reader.standIn (2 * text.length + 2) reader.room text
  if (skipBlanks rest).isEmpty then .ok value else .error .malformed

end NodeTopology.Json
