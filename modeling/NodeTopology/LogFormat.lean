import NodeTopology.Program
/-!
Log lines as they are written: one JSON object a line, with the level, the text and the name of the
program.
-/

namespace NodeTopology.LogFormat

def jsonChar (c : Char) : List Char :=
  if c = '"' || c = '\\' then ['\\', c]
  else if c = '\n' then ['\\', 'n']
  else if c = '\r' then ['\\', 'r']
  else if c = '\t' then ['\\', 't']
  else if c < ' ' then '\\' :: 'u' :: Text.paddedDigits 16 4 c.toNat
  else [c]

def jsonString (text : String) : String :=
  String.ofList ('"' :: (text.toList.flatMap jsonChar ++ ['"']))

def line (entry : LogLine) : String :=
  "\x7b\"level\": " ++ jsonString entry.level.name ++ ", \"message\": " ++ jsonString entry.text
    ++ ", \"watcher_name\": " ++ jsonString Program.watcherName ++ "\x7d"

end NodeTopology.LogFormat
