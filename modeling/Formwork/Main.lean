import Formwork.CommandLine.Run

/-!
# The program

The program on the host that it is started on.
-/

namespace Formwork.CommandLine

/-- What there is to read at a path. -/
def readAt (path : String) : IO Reading := do
  try
    return .content (← IO.FS.readBinFile path)
  catch
    | .noFileOrDirectory .. => return .absent
    | _ => return .unreadable

/-- The bytes of a stream up to its end, behind those that were read. -/
partial def readAll (stream : IO.FS.Stream) (read : ByteArray) : IO ByteArray := do
  let more ← stream.read 65536
  if more.isEmpty then return read else readAll stream (read ++ more)

/-- Writes a text to a file, if it can. -/
def writeAt (path text : String) : IO Bool := do
  try
    IO.FS.writeFile path text
    return true
  catch _ => return false

/-- The host of the program. -/
def host : Host IO where
  read := readAt
  stdin := do readAll (← IO.getStdin) .empty
  print := IO.print
  write := writeAt

end Formwork.CommandLine

open Formwork.CommandLine in
def main (args : List String) : IO UInt32 := do
  let ending ← host.run args
  match ending with
  | .success => pure ()
  | .failure e => IO.eprintln ("Error: " ++ e.message)
  | .misuse => IO.eprint HelpPage.main.text
  return UInt32.ofNat ending.status
