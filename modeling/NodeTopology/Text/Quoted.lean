import NodeTopology.Text.Digits
import NodeTopology.Text.Printable
/-!
Text between quotes, as log lines and error messages show it.  The single quote encloses, unless the
text holds a single quote and no double one.  The enclosing quote, the backslash and every hidden
character are escaped; everything else stands as it is.
-/

namespace NodeTopology.Text

def enclosingQuote (text : List Char) : Char :=
  if text.contains '\'' && !text.contains '"' then '"' else '\''

/-- A hidden character by its code point, in the shortest of the three widths that holds it. -/
def escapeCode (c : Char) : List Char :=
  if c.toNat < 0x100 then '\\' :: 'x' :: paddedDigits 16 2 c.toNat
  else if c.toNat < 0x10000 then '\\' :: 'u' :: paddedDigits 16 4 c.toNat
  else '\\' :: 'U' :: paddedDigits 16 8 c.toNat

/-- One character as it stands between the given quotes. -/
def quotedChar (quote c : Char) : List Char :=
  if c = quote || c = '\\' then ['\\', c]
  else if c = '\n' then ['\\', 'n']
  else if c = '\r' then ['\\', 'r']
  else if c = '\t' then ['\\', 't']
  else if isPrintable c then [c]
  else escapeCode c

def quoted (text : String) : String :=
  let quote := enclosingQuote text.toList
  String.ofList (quote :: (text.toList.flatMap (quotedChar quote) ++ [quote]))

end NodeTopology.Text
