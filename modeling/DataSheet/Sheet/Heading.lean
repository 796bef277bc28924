/-
**What sections are about.**

The name of a section tells which part of the dictionary it describes.  Four hexadecimal digits are
an index; a subindex or the word for a list of names may follow them; two sections have names of
their own; any other section is left out.

Main definitions:

* `Heading` — the parts of a dictionary that a section can be about;
* `Heading.ofName` — tells it from the name.
-/

import DataSheet.Fault
import DataSheet.Text.Case

set_option relaxedAutoImplicit false
set_option autoImplicit false

namespace DataSheet

/-- What a section is about. -/
inductive Heading
  | object (index : UInt16)
  | member (index : UInt16) (subindex : UInt8)
  /-- The names of the members at an index. -/
  | nameList (index : UInt16)
  | dummyUsage
  | commissioning
  | other
  deriving DecidableEq

namespace Heading

/-- The index that the four hexadecimal digits at the front of a text denote, and the rest. -/
def index? : List Char → Option (UInt16 × List Char)
  | a :: b :: c :: d :: rest =>
    (Text.number? 16 [a, b, c, d]).map fun n => (UInt16.ofNat n, rest)
  | _ => none

/-- The digits of a subindex behind the word that announces it. -/
def subindexDigits? : List Char → Option (List Char)
  | 's' :: 'u' :: 'b' :: s => some s
  | 'S' :: 'u' :: 'b' :: s => some s
  | _ => none

/-- What follows an index in a name.  A subindex of any number of digits may do so, but its value
must be one of eight bits. -/
def ofTail (index : UInt16) (tail : List Char) : Except Malformation Heading :=
  if tail = [] then .ok (.object index)
  else if tail = "Name".toList then .ok (.nameList index)
  else
    match (subindexDigits? tail).bind (Text.number? 16) with
    | none => .ok .other
    | some n =>
      if n < 256 then .ok (.member index (UInt8.ofNat n)) else .error .subindexTooLarge

/-- What the section of this name is about. -/
def ofName (name : String) : Except Malformation Heading :=
  let s := name.toList
  if Text.sameFolded s "DummyUsage".toList then .ok .dummyUsage
  else if Text.sameFolded s "DeviceComissioning".toList then .ok .commissioning
  else
    match index? s with
    | none => .ok .other
    | some (index, tail) => ofTail index tail

example : ofName "1018" = .ok (.object 0x1018) := rfl
example : ofName "1018sub0F" = .ok (.member 0x1018 15) := rfl
example : ofName "1018sub100" = .error .subindexTooLarge := rfl
example : ofName "1003Name" = .ok (.nameList 0x1003) := rfl
example : ofName "1018SUB1" = .ok .other := rfl

end Heading

end DataSheet
