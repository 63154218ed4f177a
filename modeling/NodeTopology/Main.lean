import NodeTopology.Rehearsal
import NodeTopology.LogFormat
/-!
The command: reads a rehearsal from standard input, carries it out, and writes the log as JSON
lines.  The exit status is the program's, or 2 if the input is no rehearsal.
-/

namespace NodeTopology

def readAll (stream : IO.FS.Stream) : IO String := do
  let mut text := ""
  let mut line ← stream.getLine
  while !line.isEmpty do
    text := text ++ line
    line ← stream.getLine
  return text

def sceneOfText (text : String) : Option Rehearsal.Scene :=
  match Json.read .standard text with
  | .ok (.table document) => Rehearsal.scene? Rehearsal.failure? document
  | _ => none

/-- Say what ended a run without a line in the log. -/
def reportEnd (fault : Fault) : IO Unit :=
  IO.eprintln (fault.message.getD "a value cannot be used here")

/-- Carry out a scene: its log on standard output, its exit status as the answer. -/
def command (scene : Rehearsal.Scene) : IO UInt32 := do
  for entry in scene.lines do
    IO.println (LogFormat.line entry)
  match scene.play.result with
  | .ok status => return UInt32.ofNat status.code
  | .error fault =>
      reportEnd fault
      return 1

end NodeTopology

def main : IO UInt32 := do
  match NodeTopology.sceneOfText (← NodeTopology.readAll (← IO.getStdin)) with
  | none =>
      IO.eprintln "no rehearsal on standard input"
      return 2
  | some scene => NodeTopology.command scene
