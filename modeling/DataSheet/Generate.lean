/-
**From file to file.**

The data sheet in one file is turned into the declarations in another.  The place for the
declarations is checked first, and the file is touched last, when nothing else can fail; so a run
that fails changes no file.

Main definitions:

* `checkDestination` — declarations can be written to a place;
* `prepare` — the dictionary that a text describes, and the text of its declarations;
* `generate` — the run.
-/

import DataSheet.Build.Dictionary
import DataSheet.Declarations
import DataSheet.Files

set_option relaxedAutoImplicit false
set_option autoImplicit false

namespace DataSheet

/-- The dictionary that a text describes, and the text of its declarations. -/
def prepare (text : String) (node : Option UInt8) (c : Settings) : Step (Dictionary × String) := do
  let d ← Dictionary.ofText text node
  let (sink, written) := d.emit c .accepting
  written
  pure (d, sink.content)

variable {m : Type → Type} [Monad m] [FileSystem m]

/-- Declarations can be written to a place that is no directory and, if its path names a directory,
in one that exists. -/
def checkDestination (destination : String) : m (Except Fault Unit) := do
  if ← FileSystem.isDirectory destination then
    return .error (.destination destination .isDirectory)
  else
    match (Path.ofText destination).parent? with
    | none => return .ok ()
    | some parent =>
      if ← FileSystem.isDirectory parent then return .ok ()
      else return .error (.destination destination .noParent)

/-- Writes prepared declarations to their destination. -/
def deliver (source destination : String) (d : Dictionary) (content : String) :
    m (Step Dictionary) := do
  match ← FileSystem.create destination content with
  | .error f => return .fail (.destination destination (.notCreated f))
  | .ok () => return do
    .note (.fileGenerated destination source d.size)
    pure d

/-- Turns the data sheet at `source` into declarations at `destination`.  The outcome is the
dictionary. -/
def generate (source destination : String) (node : Option UInt8) (c : Settings) :
    m (Step Dictionary) := do
  match ← checkDestination destination with
  | .error f => return .fail f
  | .ok () =>
    match ← FileSystem.read source with
    | .error f => return .fail (.file f)
    | .ok text =>
      let prepared := prepare text node c
      match prepared.outcome with
      | .error f => return ⟨prepared.notices, .error f⟩
      | .ok (d, content) =>
        let delivered ← deliver source destination d content
        return ⟨prepared.notices ++ delivered.notices, delivered.outcome⟩

end DataSheet
