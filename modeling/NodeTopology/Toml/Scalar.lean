import NodeTopology.Decimal.Notation
import NodeTopology.Text.Digits
import NodeTopology.Value.Display
/-!
The values of a configuration file that contain no others: strings in their four spellings, dates
and times, numbers and words.  A reader takes the text at its place and yields a value with the
text after it.
-/

namespace NodeTopology.Toml

inductive Refusal where
  /-- The text breaks the grammar. -/
  | malformed
  /-- An integer has too many digits. -/
  | longInteger
  /-- Arrays and inline tables are nested deeper than the reader has room for. -/
  | tooDeep
deriving Repr, DecidableEq

/-- Control characters, the tab apart, may stand in no string and no comment. -/
def isControl (c : Char) : Bool := (c < ' ' && c != '\t') || c = '\x7f'

def isSpace (c : Char) : Bool := c = ' ' || c = '\t'

def skipSpaces (text : List Char) : List Char := text.dropWhile isSpace

/-- Space, tab and line feed. -/
def skipLines (text : List Char) : List Char := text.dropWhile fun c => isSpace c || c = '\n'

/-- Text up to a closing mark, which is passed over.  What stands between must be allowed. -/
def readUntil (mark : List Char) (isRefused : Char → Bool) :
    List Char → Except Refusal (List Char × List Char)
  | [] => .error .malformed
  | c :: rest =>
      if mark.isPrefixOf (c :: rest) then .ok ([], (c :: rest).drop mark.length)
      else if isRefused c then .error .malformed
      else do
        let (more, after) ← readUntil mark isRefused rest
        .ok (c :: more, after)

/-- A scalar value given by a number of hexadecimal digits. -/
def readCodePoint (width : Nat) (text : List Char) : Except Refusal (List Char × List Char) :=
  let digits := text.take width
  let value := Text.numeral 16 digits
  if digits.length = width && digits.all Text.isHex && value.isValidChar then
    .ok ([Char.ofNat value], text.drop width)
  else .error .malformed

/-- The characters that an escape gives, from the text after the backslash. -/
def readEscape : List Char → Except Refusal (List Char × List Char)
  | 'b' :: rest => .ok (['\x08'], rest)
  | 't' :: rest => .ok (['\t'], rest)
  | 'n' :: rest => .ok (['\n'], rest)
  | 'f' :: rest => .ok (['\x0c'], rest)
  | 'r' :: rest => .ok (['\r'], rest)
  | '"' :: rest => .ok (['"'], rest)
  | '\\' :: rest => .ok (['\\'], rest)
  | 'u' :: rest => readCodePoint 4 rest
  | 'U' :: rest => readCodePoint 8 rest
  | _ => .error .malformed

/-- An escape in a string of several lines: a backslash that ends its line joins it to the next
text, whatever blanks and empty lines come between. -/
def readLineEscape (text : List Char) : Except Refusal (List Char × List Char) :=
  match text with
  | [] => .error .malformed
  | c :: _ =>
      if isSpace c || c = '\n' then
        match skipSpaces text with
        | [] => .ok ([], [])
        | '\n' :: rest => .ok ([], skipLines rest)
        | _ => .error .malformed
      else readEscape text

/-- The rest of a string on one line. -/
def readBasic : Nat → List Char → Except Refusal (List Char × List Char)
  | 0, _ => .error .malformed
  | _ + 1, [] => .error .malformed
  | _ + 1, '"' :: rest => .ok ([], rest)
  | rounds + 1, '\\' :: rest => do
      let (chars, after) ← readEscape rest
      let (more, last) ← readBasic rounds after
      .ok (chars ++ more, last)
  | rounds + 1, c :: rest =>
      if isControl c then .error .malformed
      else do
        let (more, last) ← readBasic rounds rest
        .ok (c :: more, last)

/-- The rest of a string of several lines, to its three closing quotes. -/
def readBasicLines : Nat → List Char → Except Refusal (List Char × List Char)
  | 0, _ => .error .malformed
  | _ + 1, [] => .error .malformed
  | _ + 1, '"' :: '"' :: '"' :: rest => .ok ([], rest)
  | rounds + 1, '\\' :: rest => do
      let (chars, after) ← readLineEscape rest
      let (more, last) ← readBasicLines rounds after
      .ok (chars ++ more, last)
  | rounds + 1, c :: rest =>
      if isControl c && c != '\n' then .error .malformed
      else do
        let (more, last) ← readBasicLines rounds rest
        .ok (c :: more, last)

/-- Up to two quotes may stand directly before the closing three; they belong to the string. -/
def readClosingQuotes (quote : Char) (chars text : List Char) : List Char × List Char :=
  match text with
  | a :: b :: rest =>
      if a = quote && b = quote then (chars ++ [quote, quote], rest)
      else if a = quote then (chars ++ [quote], b :: rest)
      else (chars, text)
  | [a] => if a = quote then (chars ++ [quote], []) else (chars, text)
  | [] => (chars, text)

/-- A line feed directly after the opening quotes is no part of the string. -/
def skipFirstLine : List Char → List Char
  | '\n' :: rest => rest
  | text => text

/-- A string in any spelling. -/
def readString (text : List Char) : Except Refusal (List Char × List Char) :=
  match text with
  | '"' :: '"' :: '"' :: rest => do
      let (chars, after) ← readBasicLines (rest.length + 1) (skipFirstLine rest)
      .ok (readClosingQuotes '"' chars after)
  | '\'' :: '\'' :: '\'' :: rest => do
      let (chars, after) ← readUntil ['\'', '\'', '\'']
        (fun c => isControl c && c != '\n') (skipFirstLine rest)
      .ok (readClosingQuotes '\'' chars after)
  | '"' :: rest => readBasic (rest.length + 1) rest
  | '\'' :: rest => readUntil ['\''] isControl rest
  | _ => .error .malformed

/-- A fraction of a second: six digits count, further ones are passed over. -/
def readMicroseconds (text : List Char) : Nat × List Char :=
  match text with
  | '.' :: rest =>
      let digits := rest.takeWhile Text.isDecimal
      if digits.isEmpty then (0, text)
      else
        let six := digits.take 6
        (Text.numeral 10 (six ++ List.replicate (6 - six.length) '0'), rest.drop digits.length)
  | _ => (0, text)

/-- Hours and minutes with a colon between. -/
def hourMinute? (text : List Char) : Option ((Nat × Nat) × List Char) := do
  let (hour, afterHour) ← Text.takeDecimals? 2 text
  match afterHour with
  | ':' :: rest =>
      let (minute, after) ← Text.takeDecimals? 2 rest
      if hour < 24 && minute < 60 then some ((hour, minute), after) else none
  | _ => none

def time? (text : List Char) : Option (TimeOfDay × List Char) := do
  let ((hour, minute), afterMinute) ← hourMinute? text
  match afterMinute with
  | ':' :: rest =>
      let (second, after) ← Text.takeDecimals? 2 rest
      if second < 60 then
        let (microsecond, last) := readMicroseconds after
        some (⟨hour, minute, second, microsecond⟩, last)
      else none
  | _ => none

/-- Year, month and day with hyphens between; the calendar need not have the day. -/
def date? (text : List Char) : Option (Date × List Char) := do
  let (year, afterYear) ← Text.takeDecimals? 4 text
  match afterYear with
  | '-' :: monthText =>
      let (month, afterMonth) ← Text.takeDecimals? 2 monthText
      match afterMonth with
      | '-' :: dayText =>
          let (day, after) ← Text.takeDecimals? 2 dayText
          if 1 ≤ month && month ≤ 12 && 1 ≤ day && day ≤ 31 then
            some (⟨year, month, day⟩, after)
          else none
      | _ => none
  | _ => none

/-- An offset from universal time in minutes, or none. -/
def readOffset (text : List Char) : Option Int × List Char :=
  match text with
  | 'Z' :: rest => (some 0, rest)
  | 'z' :: rest => (some 0, rest)
  | '+' :: rest =>
      match hourMinute? rest with
      | some ((hour, minute), after) => (some (hour * 60 + minute), after)
      | none => (none, text)
  | '-' :: rest =>
      match hourMinute? rest with
      | some ((hour, minute), after) => (some (-(hour * 60 + minute : Int)), after)
      | none => (none, text)
  | _ => (none, text)

/-- A day, with a time of day and an offset where they follow. -/
def readDay (day : Date) (text : List Char) : Except Refusal (Value × List Char) :=
  let timed : Option (TimeOfDay × List Char) :=
    match text with
    | 'T' :: rest => time? rest
    | 't' :: rest => time? rest
    | ' ' :: rest => time? rest
    | _ => none
  if !day.isValid then .error .malformed
  else match timed with
    | some (time, after) =>
        let (offset, last) := readOffset after
        .ok (.dateTime day time offset, last)
    | none => .ok (.date day, text)

/-- A run of digits of one kind, single underscores between them, and the text after it. -/
def groupedDigits (isDigit : Char → Bool) : List Char → List Char × List Char
  | [] => ([], [])
  | '_' :: c :: rest =>
      if isDigit c then
        let (more, after) := groupedDigits isDigit rest
        (c :: more, after)
      else ([], '_' :: c :: rest)
  | c :: rest =>
      if isDigit c then
        let (more, after) := groupedDigits isDigit rest
        (c :: more, after)
      else ([], c :: rest)

/-- A run of digits that begins with a digit. -/
def digitRun? (isDigit : Char → Bool) (text : List Char) : Option (List Char × List Char) :=
  match text with
  | c :: rest =>
      if isDigit c then
        let (more, after) := groupedDigits isDigit rest
        some (c :: more, after)
      else none
  | [] => none

def radixNumber? : List Char → Option (Nat × List Char)
  | '0' :: 'x' :: rest =>
      (digitRun? Text.isHex rest).map fun (digits, after) => (Text.numeral 16 digits, after)
  | '0' :: 'b' :: rest =>
      (digitRun? (fun c => c = '0' || c = '1') rest).map fun (digits, after) =>
        (Text.numeral 2 digits, after)
  | '0' :: 'o' :: rest =>
      (digitRun? (fun c => '0' ≤ c && c ≤ '7') rest).map fun (digits, after) =>
        (Text.numeral 8 digits, after)
  | _ => none

/-- The digits before the point: zero alone, or a run that does not begin with zero. -/
def wholeDigits? : List Char → Option (List Char × List Char)
  | '0' :: rest => some (['0'], rest)
  | text => digitRun? Text.isDecimal text

def fraction? : List Char → Option (List Char × List Char)
  | '.' :: rest => digitRun? Text.isDecimal rest
  | _ => none

def signedExponent? : List Char → Option (Int × List Char)
  | '-' :: rest =>
      (digitRun? Text.isDecimal rest).map fun (digits, after) =>
        (-(Text.numeral 10 digits : Int), after)
  | '+' :: rest =>
      (digitRun? Text.isDecimal rest).map fun (digits, after) =>
        ((Text.numeral 10 digits : Int), after)
  | text =>
      (digitRun? Text.isDecimal text).map fun (digits, after) =>
        ((Text.numeral 10 digits : Int), after)

/-- An exponent, if the mark is followed by one. -/
def exponent? : List Char → Option (Int × List Char)
  | 'e' :: rest => signedExponent? rest
  | 'E' :: rest => signedExponent? rest
  | _ => none

/-- A decimal number whose sign is read: an integer, or a float if a fraction or an exponent is
there. -/
def decimalNumber? (negative : Bool) (text : List Char) :
    Option (Except Refusal (Value × List Char)) := do
  let (whole, afterWhole) ← wholeDigits? text
  match fraction? afterWhole, exponent? afterWhole with
  | none, none =>
      if Value.maxDigits < whole.length then some (.error .longInteger)
      else
        let n : Int := Text.numeral 10 whole
        some (.ok (.int (if negative then -n else n), afterWhole))
  | none, some (exponent, after) =>
      let x := Decimal.toFloat (Text.numeral 10 whole) exponent
      some (.ok (.float (if negative then -x else x), after))
  | some (fraction, afterFraction), _ =>
      let (exponent, after) := (exponent? afterFraction).getD (0, afterFraction)
      let x := Decimal.toFloat (Text.numeral 10 (whole ++ fraction)) (exponent - fraction.length)
      some (.ok (.float (if negative then -x else x), after))

def number? (text : List Char) : Option (Except Refusal (Value × List Char)) :=
  match radixNumber? text with
  | some (n, after) => some (.ok (.int n, after))
  | none =>
      match text with
      | '-' :: rest => decimalNumber? true rest
      | '+' :: rest => decimalNumber? false rest
      | _ => decimalNumber? false text

/-- The words for infinity and for what is no number, with or without a sign. -/
def specialNumbers : List (String × Float) :=
  [("inf", 1.0 / 0.0), ("+inf", 1.0 / 0.0), ("-inf", -1.0 / 0.0), ("nan", 0.0 / 0.0),
    ("+nan", 0.0 / 0.0), ("-nan", 0.0 / 0.0)]

/-- The words for the two truth values. -/
def readWord? (text : List Char) : Option (Value × List Char) :=
  if "true".toList.isPrefixOf text then some (.bool true, text.drop 4)
  else if "false".toList.isPrefixOf text then some (.bool false, text.drop 5)
  else none

/-- A value that contains no others. -/
def readScalar (text : List Char) : Except Refusal (Value × List Char) :=
  match text with
  | '"' :: _ => do
      let (chars, after) ← readString text
      .ok (.text (String.ofList chars), after)
  | '\'' :: _ => do
      let (chars, after) ← readString text
      .ok (.text (String.ofList chars), after)
  | _ =>
      match readWord? text, date? text, time? text, number? text with
      | some word, _, _, _ => .ok word
      | none, some (day, after), _, _ => readDay day after
      | none, none, some (time, after), _ => .ok (.time time, after)
      | none, none, none, some number => number
      | none, none, none, none =>
          match specialNumbers.find? fun word => word.1.toList.isPrefixOf text with
          | some (word, x) => .ok (.float x, text.drop word.length)
          | none => .error .malformed

end NodeTopology.Toml
