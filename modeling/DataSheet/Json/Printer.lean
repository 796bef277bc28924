/-
**JSON texts.**

A JSON value is written over several lines: what an object or an array holds stands indented by two
blanks, one item a line, and empty ones stay on their line.

Main definitions:

* `Json` — a value;
* `Json.quote` — a string with its quotes;
* `Json.pretty` — a value as text.
-/

import DataSheet.Number.Layout

set_option relaxedAutoImplicit false
set_option autoImplicit false

namespace DataSheet

/-- A JSON value.  Objects keep the order of their members. -/
inductive Json
  | null
  | bool (b : Bool)
  | int (n : Int)
  | real (x : Binary64)
  | string (s : String)
  | array (items : List Json)
  | object (members : List (String × Json))

namespace Json

/-! ### Scalars -/

/-- A string's character inside its quotes.  Controls have a letter or a code of four digits. -/
def escape (c : Char) : List Char :=
  if c = '"' then ['\\', '"']
  else if c = '\\' then ['\\', '\\']
  else if c = '\x08' then ['\\', 'b']
  else if c = '\x0c' then ['\\', 'f']
  else if c = '\n' then ['\\', 'n']
  else if c = '\r' then ['\\', 'r']
  else if c = '\t' then ['\\', 't']
  else if c.toNat < 0x20 then '\\' :: 'u' :: (Nat.toDigits 16 c.toNat).leftpad 4 '0'
  else [c]

/-- A string with its quotes. -/
def quote (s : String) : List Char := '"' :: s.toList.flatMap escape ++ ['"']

/-- A whole number. -/
def intText : Int → List Char
  | .ofNat n => Nat.toDigits 10 n
  | .negSucc n => '-' :: Nat.toDigits 10 (n + 1)

/-- A number.  JSON knows finite ones only. -/
def realText (x : Binary64) : List Char :=
  if x.isFinite then Binary64.Layout.interchange.write x else "null".toList

/-! ### Nested values -/

/-- A new line, indented. -/
def newLine (depth : Nat) : List Char := '\n' :: List.replicate (2 * depth) ' '

mutual

/-- A value that stands `depth` levels deep. -/
def write (depth : Nat) : Json → List Char
  | null => "null".toList
  | bool b => (if b then "true" else "false").toList
  | int n => intText n
  | real x => realText x
  | string s => quote s
  | array [] => ['[', ']']
  | array (item :: items) =>
    '[' :: newLine (depth + 1) ++ write (depth + 1) item ++ writeItems (depth + 1) items ++
      newLine depth ++ [']']
  | object [] => ['{', '}']
  | object ((key, value) :: members) =>
    '{' :: newLine (depth + 1) ++ quote key ++ ':' :: ' ' :: write (depth + 1) value ++
      writeMembers (depth + 1) members ++ newLine depth ++ ['}']

/-- The items of an array after the first one. -/
def writeItems (depth : Nat) : List Json → List Char
  | [] => []
  | item :: items => ',' :: newLine depth ++ write depth item ++ writeItems depth items

/-- The members of an object after the first one. -/
def writeMembers (depth : Nat) : List (String × Json) → List Char
  | [] => []
  | (key, value) :: members =>
    ',' :: newLine depth ++ quote key ++ ':' :: ' ' :: write depth value ++
      writeMembers depth members

end

/-- A value as text. -/
def pretty (j : Json) : String := String.ofList (write 0 j)

example : pretty (array [int 1, object []]) = "[\n  1,\n  \x7b\x7d\n]" := by decide

end Json

end DataSheet
