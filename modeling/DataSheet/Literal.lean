/-
**Literals.**

The value of an entry is a literal.  What it denotes depends on the type it is read at: integers are
decimal or hexadecimal, may have a sign, may have blanks anywhere, and may be relative to the node
id; truth values also have words; floating-point numbers are decimals; strings are taken as they
are.

Main definitions:

* `Literal.integer?` — the whole number that a literal denotes;
* `Literal.boolean?`, `Literal.float?` — the truth value and the number that it denotes;
* `Literal.parse?` — the value that it denotes at a type;
* `Literal.value` — the value of an entry, which a blank literal leaves out.
-/

import DataSheet.Notice
import DataSheet.Number.Reader
import DataSheet.Text.Blank
import DataSheet.Value

set_option relaxedAutoImplicit false
set_option autoImplicit false

namespace DataSheet.Literal

/-! ### Whole numbers -/

/-- The literal without its blanks and in upper case. -/
def compact (s : List Char) : List Char := Text.upper (s.filter fun c => !Text.isBlank c)

/-- The node id as a term before a number. -/
def leadingTerm : List Char := "$NODEID+".toList

/-- The node id as a term behind a number. -/
def trailingTerm : List Char := "+$NODEID".toList

/-- The number part of a compact literal, and whether the node id is to be added to it. -/
def splitTerm (s : List Char) : List Char × Bool :=
  if leadingTerm.isPrefixOf s then (s.drop leadingTerm.length, true)
  else if trailingTerm.isSuffixOf s then (s.take (s.length - trailingTerm.length), true)
  else (s, false)

/-- The magnitude that digits denote, decimal ones or hexadecimal ones behind `0X`, if it has at
most 64 bits. -/
def magnitude? (s : List Char) : Option Nat :=
  let n :=
    match s with
    | '0' :: 'X' :: h => Text.number? 16 h
    | s => Text.number? 10 s
  n.filter fun n => n < UInt64.size

/-- The whole number that an optional sign and a magnitude denote. -/
def signed? : List Char → Option Int
  | '-' :: s => (magnitude? s).map fun n => -(n : Int)
  | '+' :: s => (magnitude? s).map fun n => (n : Int)
  | s => (magnitude? s).map fun n => (n : Int)

/-- The whole number that a literal denotes for a node.  A literal that is relative to the node id
denotes none where there is no node. -/
def integer? (node : Option UInt8) (s : List Char) : Option Int :=
  let (number, relative) := splitTerm (compact s)
  if relative then
    match node, signed? number with
    | some id, some n => some (n + id.toNat)
    | _, _ => none
  else signed? number

/-- The number of eight bits that a literal denotes without regard to a node. -/
def count? (s : List Char) : Option UInt8 :=
  match integer? none s with
  | some n => if 0 ≤ n ∧ n < 256 then some (UInt8.ofNat n.toNat) else none
  | none => none

/-- The data type code that a literal denotes. -/
def typeCode? (s : List Char) : Option UInt16 :=
  match integer? none s with
  | some n => if 0 ≤ n ∧ n < 65536 then some (UInt16.ofNat n.toNat) else none
  | none => none

/-! ### Typed values -/

/-- The truth value that a literal denotes: a word, or zero or one. -/
def boolean? (node : Option UInt8) (s : List Char) : Option Bool :=
  let word := Text.lower (Text.trim s)
  if word = "true".toList then some true
  else if word = "false".toList then some false
  else
    match integer? node word with
    | some 0 => some false
    | some 1 => some true
    | _ => none

/-- The number that a literal denotes, if it is finite at its type. -/
def float? (type : DataType) (s : List Char) : Option Binary64 :=
  (Binary64.ofText? (Text.trim s)).filter fun x =>
    if type = .real32 then x.fitsBinary32 else x.isFinite

/-- The value of an integer type that a whole number is, if it lies in the type's range. -/
def ofInt? (type : DataType) (n : Int) : Option Value :=
  match type.range? with
  | none => none
  | some (low, high) =>
    if n < low ∨ high < n then none
    else if type.isSigned then some (.signed (Int64.ofInt n))
    else some (.unsigned (UInt64.ofNat n.toNat))

/-- The value that a literal denotes at a type.  A domain has no values. -/
def parse? (type : DataType) (node : Option UInt8) (literal : String) : Option Value :=
  if type = .domain then none
  else if type.isString then some (.text literal)
  else if type = .boolean then (boolean? node literal.toList).map Value.boolean
  else if type.isFloat then (float? type literal.toList).map Value.float
  else (integer? node literal.toList).bind (ofInt? type)

/-- The literal consists of blanks. -/
def isBlank (literal : String) : Bool := Text.trim literal.toList = []

/-- The value of an entry.  A domain carries none, and a blank literal of a type other than a string
counts as absent. -/
def value (address : Address) (field : Field) (type : DataType) (node : Option UInt8)
    (literal : String) : Step (Option Value) := do
  if type = .domain then pure none
  else if !type.isString && isBlank literal then
    .note (.emptyLiteral address field)
    pure none
  else
    match parse? type node literal with
    | some v => pure (some v)
    | none => .fail (.badLiteral address field literal)

example : integer? none "-0x10".toList = some (-16) := by decide
example : integer? (some 5) "$NodeID + 0x180".toList = some 0x185 := by decide
example : integer? none "$NODEID+1".toList = none := by decide
example : integer? none "18446744073709551616".toList = none := by decide

end DataSheet.Literal
