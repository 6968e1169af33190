import Waymark.Command.Run
import Waymark.FileTree.Wire
import Waymark.Json.Parse
import Waymark.Program.Standard

/-! The program. It takes the working tree as a JSON object from standard input, runs the command
line on it, and writes out the files that the command has made. -/

namespace Waymark

/-- Everything that is left in a stream. -/
partial def readRest (input : IO.FS.Stream) (text : String) : IO String := do
  let line ← input.getLine
  if line.isEmpty then return text else readRest input (text ++ line)

/-- The tree that a text describes; no text at all is an empty one. -/
def treeOfText? (text : String) : Option FileTree :=
  if text.isEmpty then some .empty
  else (Json.parse text.toList).toOption.bind FileTree.ofJson?

def writeFiles (files : List (Place × ByteArray)) : IO Unit :=
  files.forM fun (place, contents) => do
    unless place.dropLast.isEmpty do
      IO.FS.createDirAll ("/".intercalate place.dropLast)
    IO.FS.writeBinFile ("/".intercalate place) contents

end Waymark

open Waymark

def main (args : List String) : IO UInt32 := do
  match treeOfText? (← readRest (← IO.getStdin) "") with
  | none =>
    IO.eprintln "Error: standard input describes no file tree"
    return UInt32.ofNat Command.errorStatus
  | some tree =>
    let (outcome, after) := Command.execute ⟨tree, Programs.standard, false⟩ args
    writeFiles (after.filesBeyond tree)
    IO.print outcome.stdout
    IO.eprint outcome.stderr
    return UInt32.ofNat outcome.status
