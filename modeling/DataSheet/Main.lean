/-
**The program.**

The operations on files are those of the operating system; everything else is the run of the command
line.
-/

import DataSheet.CommandLine.Run

set_option relaxedAutoImplicit false
set_option autoImplicit false

namespace DataSheet

/-- The fault that an error of the operating system is. -/
def FileFault.ofError : IO.Error → FileFault
  | .noFileOrDirectory .. => .notFound
  | e => .other e.toString

/-- Runs an operation on a file. -/
def attempt {α : Type} (operation : IO α) : IO (Except FileFault α) := do
  try
    return .ok (← operation)
  catch e => return .error (.ofError e)

/-- The operations on the files of the operating system. -/
instance : FileSystem IO where
  isDirectory path := do
    match ← attempt (do (← IO.FS.realPath path).isDir) with
    | .ok b => return b
    | .error _ => return false
  read path := do
    match ← attempt (IO.FS.readBinFile path) with
    | .error f => return .error f
    | .ok bytes =>
      match String.fromUTF8? bytes with
      | some text => return .ok text
      | none => return .error .notText
  create path content := attempt (IO.FS.writeFile path content)

end DataSheet

/-- Runs the command line, shows what the run shows, and gives its exit code. -/
def main (args : List String) : IO UInt32 := do
  let outcome : DataSheet.Outcome ← DataSheet.run args
  for line in outcome.notices do
    IO.eprintln line
  IO.print outcome.output
  return outcome.exitCode
