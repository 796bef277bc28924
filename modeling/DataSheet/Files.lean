/-
**Files.**

The files and directories below a working directory, and what reading and creating a file by its
path does to them.  Of what lies outside the working directory nothing is known but that it exists:
there is no file in it, and what is written to it is not seen.

Main definitions:

* `File`, `Files` — a file; files and directories;
* `Path` — a path taken apart;
* `Files.locate` — what stands at a path;
* `Files.read`, `Files.create` — reading a text, writing one;
* `FileSystem` — the operations on files that a program needs, here and elsewhere;
* `Files.changesSince` — the files that are new or have another content.
-/

import DataSheet.Fault

set_option relaxedAutoImplicit false
set_option autoImplicit false

namespace DataSheet

/-- Where a file or a directory is: the names on the way from the working directory. -/
abbrev Route := List String

/-- A file with its content. -/
structure File where
  route : Route
  content : ByteArray

/-- The files and directories below a working directory. -/
structure Files where
  directories : List Route
  files : List File

/-! ### Paths -/

/-- A path taken apart at its slashes. -/
structure Path where
  /-- The path starts outside the working directory. -/
  absolute : Bool
  /-- The parts between slashes.  An empty one stands for the directory before it. -/
  parts : List String
  deriving DecidableEq

namespace Path

/-- The parts of a text between slashes. -/
def split (text : String) : List String := (text.toList.splitOn '/').map String.ofList

/-- The path that a text is. -/
def ofText (text : String) : Path :=
  match split text with
  | "" :: rest => ⟨!rest.isEmpty, rest⟩
  | parts => ⟨false, parts⟩

/-- The part stands for the directory before it. -/
def isIdle (part : String) : Bool := part == "" || part == "."

/-- The path of the directory that holds what the path leads to, if the path names one. -/
def parent? (p : Path) : Option String :=
  let parts := (p.parts.filter fun part => !isIdle part).dropLast
  if p.absolute then some ("/" ++ String.intercalate "/" parts)
  else if parts = [] then none
  else some (String.intercalate "/" parts)

/-- The path with nothing but slashes behind its last part. -/
def hasTrailingSlash (p : Path) : Bool := p.parts.getLast? == some ""

/-- The path without slashes at its end, and without the part before them. -/
def beforeTrailing (p : Path) : Path :=
  { p with parts := ((p.parts.reverse.dropWhile (· == "")).drop 1).reverse }

end Path

/-- What stands at a path. -/
inductive Place
  /-- A directory; without a route, one outside the working directory. -/
  | directory (route : Option Route)
  | file (route : Route) (content : ByteArray)
  /-- Nothing, in a directory that exists. -/
  | vacant (route : Option Route)

namespace Files

/-- The file with a route. -/
def file? (fs : Files) (route : Route) : Option File := fs.files.find? fun f => f.route = route

/-- There is a directory with this route: it is given, or something lies below it. -/
def hasDirectory (fs : Files) (route : Route) : Bool :=
  route == [] || fs.directories.any (fun d => route.isPrefixOf d) ||
    fs.files.any fun f => route.isPrefixOf f.route && f.route != route

/-- What a name stands for in the working directory or below it. -/
def lookUp (fs : Files) (route : Route) : Place :=
  match fs.file? route with
  | some f => .file route f.content
  | none => if fs.hasDirectory route then .directory (some route) else .vacant (some route)

/-- The longest name that a directory takes, in bytes. -/
def longestName : Nat := 255

/-- The longest path that is followed, in bytes. -/
def longestPath : Nat := 4095

/-- One step along a path, which starts in a directory. -/
def step (fs : Files) (place : Place) (part : String) : Except FileFault Place :=
  match place with
  | .file .. => .error .notDirectory
  | .vacant _ => .error .notFound
  | .directory route =>
    if Path.isIdle part then .ok (.directory route)
    else if part = ".." then
      match route with
      | none | some [] => .ok (.directory none)
      | some route => .ok (.directory (some route.dropLast))
    else if longestName < part.utf8ByteSize then .error .nameTooLong
    else
      match route with
      | none => .ok (.vacant none)
      | some route => .ok (fs.lookUp (route ++ [part]))

/-- What a path leads to. -/
def follow (fs : Files) (p : Path) : Except FileFault Place :=
  p.parts.foldlM fs.step (.directory (if p.absolute then none else some []))

/-- What keeps a text from being a path at all. -/
def pathFault? (text : String) : Option FileFault :=
  if text.toList.contains '\x00' then some .nulInName
  else if text = "" then some .notFound
  else if longestPath < text.utf8ByteSize then some .nameTooLong
  else none

/-- What stands at a path. -/
def locate (fs : Files) (text : String) : Except FileFault Place :=
  match pathFault? text with
  | some f => .error f
  | none => fs.follow (.ofText text)

/-- The place is a directory. -/
def isDirectory : Except FileFault Place → Bool
  | .ok (.directory _) => true
  | _ => false

/-! ### Reading and creating -/

/-- The text in the file at a path. -/
def read (fs : Files) (text : String) : Except FileFault String :=
  match fs.locate text with
  | .error f => .error f
  | .ok (.directory _) => .error .isDirectory
  | .ok (.vacant _) => .error .notFound
  | .ok (.file _ content) =>
    match String.fromUTF8? content with
    | some s => .ok s
    | none => .error .notText

/-- Gives the file with a route this content. -/
def put (fs : Files) (route : Route) (content : ByteArray) : Files :=
  { fs with files := ⟨route, content⟩ :: fs.files.filter fun f => f.route ≠ route }

/-- Where a file would be created by its path: the route, if it is seen.  A path that ends in a
slash asks for a directory. -/
def creationSite (fs : Files) (text : String) : Except FileFault (Option Route) :=
  match pathFault? text with
  | some f => .error f
  | none =>
    let p := Path.ofText text
    if p.hasTrailingSlash then
      match fs.follow p.beforeTrailing with
      | .error f => .error f
      | .ok (.file ..) => .error .notDirectory
      | .ok (.vacant _) => .error .notFound
      | .ok (.directory _) => .error .isDirectory
    else
      match fs.follow p with
      | .error f => .error f
      | .ok (.directory _) => .error .isDirectory
      | .ok (.file route _) => .ok (some route)
      | .ok (.vacant route) => .ok route

/-- Writes a text to the file at a path, which is created if it is not there. -/
def create (fs : Files) (text content : String) : Except FileFault Files :=
  match fs.creationSite text with
  | .error f => .error f
  | .ok none => .ok fs
  | .ok (some route) => .ok (fs.put route content.toUTF8)

/-- The files that were not there before, or had another content. -/
def changesSince (before after : Files) : List File :=
  after.files.filter fun f =>
    match before.file? f.route with
    | none => true
    | some old => old.content.data ≠ f.content.data

/-- A route as a path. -/
def routeText (route : Route) : String := String.intercalate "/" route

end Files

/-! ### Programs on files -/

/-- The operations on files that a program needs. -/
class FileSystem (m : Type → Type) where
  isDirectory : String → m Bool
  read : String → m (Except FileFault String)
  create : String → String → m (Except FileFault Unit)

/-- The operations on files below a working directory. -/
instance : FileSystem (StateM Files) where
  isDirectory path := do return Files.isDirectory ((← get).locate path)
  read path := do return (← get).read path
  create path content := do
    match (← get).create path content with
    | .ok fs =>
      set fs
      return .ok ()
    | .error f => return .error f

end DataSheet
