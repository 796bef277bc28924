/-
**Data sheets.**

An electronic data sheet is a text of named sections, each with entries of a key and a value.  Keys
are looked up without regard to letter case, section names as they are.

Main definitions:

* `Entry`, `Section`, `Sheet` — the parts of a data sheet;
* `Section.entry?`, `Section.value?` — the entry with a key, and its value;
* `Section.family` — the entries whose keys start alike;
* `Section.insert` — a section with one more entry;
* `Sheet.find?` — the section with a name;
* `Sheet.render` — a data sheet as text.
-/

import DataSheet.Ascending
import DataSheet.Text.Case

set_option relaxedAutoImplicit false
set_option autoImplicit false

namespace DataSheet

/-- A key as it is looked up: in lower case. -/
def foldKey (key : String) : String := String.ofList (Text.lower key.toList)

/-- One line `key=value`. -/
structure Entry where
  /-- The key in lower case, by which the entry is found. -/
  key : String
  /-- The key as it is written. -/
  spelling : String
  value : String
  /-- The number of the line, counted from one. -/
  line : Nat
  deriving DecidableEq

namespace Entry

/-- The entry of a key and a value in a line. -/
def ofLine (spelling value : String) (line : Nat) : Entry :=
  ⟨foldKey spelling, spelling, value, line⟩

end Entry

/-- A header `[name]` with the entries below it. -/
structure Section where
  name : String
  /-- The number of the header's line. -/
  line : Nat
  /-- The entries by ascending key. -/
  entries : List Entry
  deriving DecidableEq

namespace Section

/-- The entry with a key. -/
def entry? (s : Section) (key : String) : Option Entry :=
  Ascending.find? Entry.key (foldKey key) s.entries

/-- The value of the entry with a key. -/
def value? (s : Section) (key : String) : Option String := (s.entry? key).map Entry.value

/-- There is an entry with this key. -/
def has (s : Section) (key : String) : Bool := (s.entry? key).isSome

/-- The section with one more entry. -/
def insert (s : Section) (e : Entry) : Section :=
  { s with entries := Ascending.insert Entry.key e s.entries }

/-- The entries whose keys start with `stem`, by ascending key, each with the rest of its key as it
is written. -/
def family (s : Section) (stem : String) : List (String × Entry) :=
  let stem := (foldKey stem).toList
  (s.entries.filter fun e => stem.isPrefixOf e.key.toList).map fun e =>
    (String.ofList (e.spelling.toList.drop stem.length), e)

end Section

/-- The sections of a data sheet in the order of their headers. -/
structure Sheet where
  sections : List Section
  deriving DecidableEq

namespace Sheet

/-- The section with a name. -/
def find? (s : Sheet) (name : String) : Option Section :=
  s.sections.find? fun t => t.name = name

/-- A line with its line feed. -/
def renderLine (line : String) : List Char := line.toList ++ ['\n']

/-- A section as text. -/
def renderSection (s : Section) : List Char :=
  renderLine ("[" ++ s.name ++ "]") ++
    s.entries.flatMap fun e => renderLine (e.spelling ++ "=" ++ e.value)

/-- A data sheet as text: a line for each header, with the lines of its entries below it. -/
def render (s : Sheet) : String := String.ofList (s.sections.flatMap renderSection)

end Sheet

end DataSheet
