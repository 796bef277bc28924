/-
**Identifiers of declarations.**

The name of a variable is free text; its declaration needs an identifier.  Letters, digits and
underscores stay, a few characters are dropped, all others become underscores, and the name itself,
though not what is put before it, is taken in upper case.

Main definitions:

* `Identifier.keep` — what becomes of one character;
* `Identifier.ofName` — the identifier of a name behind a given start;
* `Identifier.isPlain` — a text is an identifier;
* `Identifier.keywords` — the identifiers that have another meaning;
* `Identifier.isFree`, `Identifier.isPath` — a text may name a function, or lead to a module.
-/

import DataSheet.Text.Case

set_option relaxedAutoImplicit false
set_option autoImplicit false

namespace DataSheet.Identifier

/-! ### From names to identifiers -/

/-- The characters that may stand in an identifier. -/
def isPart (c : Char) : Bool := c.isAlphanum || c == '_'

/-- The characters that leave no trace in an identifier. -/
def isDropped (c : Char) : Bool := c == '(' || c == ')' || c == '%'

/-- What one character becomes. -/
def keep (c : Char) : List Char :=
  if isDropped c then [] else if isPart c then [c] else ['_']

/-- What a text becomes, its case kept. -/
def normal (s : List Char) : List Char := s.flatMap keep

/-- Puts an underscore before a digit at the start. -/
def guard : List Char → List Char
  | [] => []
  | c :: s => if c.isDigit then '_' :: c :: s else c :: s

/-- Two underscores in the stead of what is too short for an identifier. -/
def complete (s : List Char) : List Char :=
  if s = [] ∨ s = ['_'] then ['_', '_'] else s

/-- The identifier of a name behind a given start. -/
def ofName (start name : String) : String :=
  String.ofList (complete (guard (normal start.toList ++ normal (Text.upper name.toList))))

/-! ### What may stand as it is -/

/-- The text is an identifier: it starts with a letter or an underscore, and it is not a lone
underscore. -/
def isPlain : List Char → Bool
  | [] => false
  | c :: s => (c.isAlpha || c == '_') && s.all isPart && !(c == '_' && s.isEmpty)

/-- The identifiers that the language of the declarations keeps for itself. -/
def keywords : List String :=
  ["abstract", "as", "async", "await", "become", "box", "break", "const", "continue", "crate",
    "do", "dyn", "else", "enum", "extern", "false", "final", "fn", "for", "gen", "if", "impl",
    "in", "let", "loop", "macro", "match", "mod", "move", "mut", "override", "priv", "pub",
    "ref", "return", "self", "Self", "static", "struct", "super", "trait", "true", "try",
    "type", "typeof", "unsafe", "unsized", "use", "virtual", "where", "while", "yield"]

/-- The keywords that may stand in a path. -/
def pathKeywords : List String := ["crate", "self", "super"]

/-- The text may name a function. -/
def isFree (s : String) : Bool := isPlain s.toList && !keywords.contains s

/-- The parts of a text between double colons. -/
def segments : List Char → List (List Char)
  | [] => [[]]
  | ':' :: ':' :: s => [] :: segments s
  | c :: s => (segments s).modifyHead (c :: ·)

/-- The text may be a segment of a path. -/
def isSegment (s : List Char) : Bool :=
  isPlain s &&
    (!keywords.contains (String.ofList s) || pathKeywords.contains (String.ofList s))

/-- The text may lead to a module. -/
def isPath (s : String) : Bool := (segments s.toList).all isSegment

example : ofName "OD_" "Load 50%" = "OD_LOAD_50" := by decide
example : ofName "9" "x" = "_9X" := by decide
example : ofName "" "(%)" = "__" := by decide
example : isPath "crate::od" = true := by decide
example : isPath "a:::b" = false := by decide

end DataSheet.Identifier
