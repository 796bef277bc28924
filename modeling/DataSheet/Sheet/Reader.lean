/-
**Reading data sheets.**

A text is taken line by line.  What a line is can be told from the line alone; whether it may stand
where it stands depends on the lines before it.  Reading ends at the first line that may not.

Main definitions:

* `Sheet.Line` — what a line is: left out, a header, an entry, or malformed;
* `Sheet.Line.ofText` — tells it;
* `Sheet.Draft.add` — adds a line to the sections read so far;
* `Sheet.scan` — adds lines until one is refused;
* `Sheet.ofText` — the data sheet that a text is.
-/

import DataSheet.Notice
import DataSheet.Sheet
import DataSheet.Text.Blank

set_option relaxedAutoImplicit false
set_option autoImplicit false

namespace DataSheet.Sheet

/-! ### Single lines -/

/-- What a line is, whatever stands before it. -/
inductive Line
  /-- A blank line or a comment. -/
  | skipped
  | header (name : String)
  | entry (key value : String)
  | bad (how : Malformation)
  deriving DecidableEq

/-- The part of a text before the last occurrence of `c`. -/
def beforeLast? (c : Char) (s : List Char) : Option (List Char) :=
  match s.reverse.dropWhile (· ≠ c) with
  | [] => none
  | _ :: r => some r.reverse

/-- The characters that part a key from its value. -/
def isDelimiter (c : Char) : Bool := c == '=' || c == ':'

/-- The parts of a text before and after its first delimiter. -/
def atDelimiter? (s : List Char) : Option (List Char × List Char) :=
  match s.span fun c => !isDelimiter c with
  | (_, []) => none
  | (key, _ :: value) => some (key, value)

namespace Line

/-- What follows an opening bracket: a name up to the last closing one. -/
def ofHeader (s : List Char) : Line :=
  match beforeLast? ']' s with
  | none => .bad .unterminatedHeader
  | some name =>
    let name := Text.trim name
    if name = [] then .bad .emptyName else .header (String.ofList name)

/-- A key and a value, parted by the first delimiter. -/
def ofEntry (s : List Char) : Line :=
  match atDelimiter? s with
  | none => .bad .noDelimiter
  | some (key, value) =>
    let key := Text.trim key
    if key = [] then .bad .emptyKey
    else .entry (String.ofList key) (String.ofList (Text.trim value))

/-- What a line is.  Blanks around it have no meaning. -/
def ofText (s : List Char) : Line :=
  match Text.trim s with
  | [] => .skipped
  | c :: s =>
    if c = ';' ∨ c = '#' then .skipped
    else if c = '[' then ofHeader s
    else ofEntry (c :: s)

end Line

/-! ### Lines in their place -/

/-- The sections read so far, the latest first. -/
structure Draft where
  sections : List Section
  deriving DecidableEq

namespace Draft

/-- Adds line number `n` to what is read so far. -/
def add (d : Draft) (n : Nat) : Line → Except Malformation Draft
  | .skipped => .ok d
  | .bad how => .error how
  | .header name =>
    if d.sections.any fun s => s.name = name then .error .duplicateSection
    else .ok ⟨⟨name, n, []⟩ :: d.sections⟩
  | .entry key value =>
    match d.sections with
    | [] => .error .strayEntry
    | s :: earlier =>
      if s.has key then .error .duplicateKey
      else .ok ⟨s.insert (Entry.ofLine key value n) :: earlier⟩

/-- The sections in the order of their headers. -/
def sheet (d : Draft) : Sheet := ⟨d.sections.reverse⟩

end Draft

/-- Adds lines, the first of which has number `n`, until one is refused. -/
def scan (d : Draft) (n : Nat) : List (List Char) → Draft × Option Fault
  | [] => (d, none)
  | l :: ls =>
    match d.add n (Line.ofText l) with
    | .error how => (d, some (.malformed n how))
    | .ok d => scan d (n + 1) ls

/-- The mark of byte order that may stand at the head of a text. -/
def byteOrderMark : Char := '\uFEFF'

/-- The text without a mark of byte order at its head. -/
def withoutMark : List Char → List Char
  | [] => []
  | c :: s => if c = byteOrderMark then s else c :: s

/-- The lines of a text. -/
def lines (text : String) : List (List Char) := (withoutMark text.toList).splitOn '\n'

/-- The data sheet that a text is.  Each section is noticed as it is found. -/
def ofText (text : String) : Step Sheet :=
  let (d, fault) := scan ⟨[]⟩ 1 (lines text)
  ⟨d.sheet.sections.map fun s => .sectionFound s.name s.line,
    match fault with
    | some f => .error f
    | none => if d.sections = [] then .error (.malformed 0 .noSections) else .ok d.sheet⟩

end DataSheet.Sheet
