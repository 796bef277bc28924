/-
**Variables.**

A variable is one addressable parameter of a device: its address, its type and what the data sheet
tells about its values.

Main definitions:

* `Variable` — a parameter with its attributes;
* `Variable.describe`, `Variable.defineBits` — a label for a raw value, a named group of bits;
* `Variable.element` — another element of the array whose template the variable is;
* `Variable.sameAddress` — two variables at one address.
-/

import DataSheet.AccessType
import DataSheet.Ascending
import DataSheet.DataType
import DataSheet.Text.Digits
import DataSheet.Value

set_option relaxedAutoImplicit false
set_option autoImplicit false

namespace DataSheet

/-- One addressable parameter. -/
structure Variable where
  index : UInt16
  subindex : UInt8
  name : String
  /-- Nothing if the data sheet gives no type. -/
  dataType : Option DataType
  unit : String
  /-- What a raw value is multiplied with to give a physical one. -/
  factor : Binary64
  lowLimit : Option Value
  highLimit : Option Value
  /-- The value at start-up. -/
  defaultValue : Option Value
  /-- The value configured for one device. -/
  parameterValue : Option Value
  access : AccessType
  description : String
  /-- Labels of raw values, by ascending value. -/
  valueDescriptions : List (Int64 × String)
  /-- Bits of named fields, by ascending name. -/
  bitDefinitions : List (String × List UInt8)
  deriving DecidableEq

namespace Variable

/-- A variable with nothing but a name and an address: no type, no values, read and write access and
a factor of one. -/
def blank (name : String) (index : UInt16) (subindex : UInt8) : Variable where
  index := index
  subindex := subindex
  name := name
  dataType := none
  unit := ""
  factor := Binary64.one
  lowLimit := none
  highLimit := none
  defaultValue := none
  parameterValue := none
  access := .readWrite
  description := ""
  valueDescriptions := []
  bitDefinitions := []

/-- Gives the raw value `n` a label. -/
def describe (v : Variable) (n : Int64) (label : String) : Variable :=
  { v with valueDescriptions := Ascending.insert Prod.fst (n, label) v.valueDescriptions }

/-- Gives the field `field` its bits. -/
def defineBits (v : Variable) (field : String) (bits : List UInt8) : Variable :=
  { v with bitDefinitions := Ascending.insert Prod.fst (field, bits) v.bitDefinitions }

/-- The element at `subindex` of the array whose template is `v`.  It has a name of its own and
carries no configured value; all else it shares with the template. -/
def element (v : Variable) (subindex : UInt8) : Variable :=
  { v with
    subindex := subindex
    name := v.name ++ "_" ++ Text.lowerHex 1 subindex.toNat
    parameterValue := none }

/-- The two variables have one address.  In a dictionary they are then the same. -/
def sameAddress (v w : Variable) : Bool := v.index == w.index && v.subindex == w.subindex

@[simp] theorem subindex_element (v : Variable) (s : UInt8) : (v.element s).subindex = s := rfl

end Variable

end DataSheet
