/-
**Variables from sections.**

A section describes a variable: its name, its type, its access and its values.  A type outside the
vocabulary is looked up in the section that defines it.

Main definitions:

* `Section.parameterName` — the name that a section gives;
* `Sheet.definition?` — the section that defines a type;
* `Sheet.dataType` — the type that a section gives;
* `Sheet.variable` — the variable that a section describes at an address.
-/

import DataSheet.Literal
import DataSheet.Sheet
import DataSheet.Variable

set_option relaxedAutoImplicit false
set_option autoImplicit false

namespace DataSheet

/-! ### Name and type -/

/-- The name that a section gives, or else its own. -/
def Section.parameterName (s : Section) : Step String :=
  match s.value? "ParameterName" with
  | some name => pure name
  | none => do
    .note (.nameMissing s.name)
    pure s.name

/-- The names of the sections that may define the type with a code: the code with or without leading
zeros, and the mark of the first subindex. -/
def definitionNames (code : UInt16) : List String :=
  [Text.upperHex 1 code.toNat ++ "sub1", Text.upperHex 4 code.toNat ++ "sub1"]

/-- The section that defines the type with a code. -/
def Sheet.definition? (sheet : Sheet) (code : UInt16) : Option Section :=
  (definitionNames code).findSome? sheet.find?

/-- The type to which the definition of a code leads. -/
def Sheet.definedType? (sheet : Sheet) (code : UInt16) : Option DataType := do
  let s ← sheet.definition? code
  let literal ← s.value? "DefaultValue"
  let standard ← Literal.typeCode? literal.toList
  DataType.ofCode? standard

/-- The type that a section gives, if it gives one. -/
def Sheet.dataType (sheet : Sheet) (s : Section) (address : Address) : Step (Option DataType) :=
  match s.value? Field.dataType.key with
  | none => pure none
  | some literal =>
    match Literal.typeCode? literal.toList with
    | none => .fail (.badLiteral address .dataType literal)
    | some code =>
      match DataType.ofCode? code with
      | some type => pure (some type)
      | none =>
        match sheet.definedType? code with
        | some type => do
          .note (.typeResolved s.name code type)
          pure (some type)
        | none => .fail (.unknownType address code)

/-! ### Attributes -/

/-- The access that a section gives; read and write if it gives none. -/
def Section.access (s : Section) (address : Address) : Step AccessType :=
  match s.value? Field.accessType.key with
  | none => pure .readWrite
  | some literal =>
    match AccessType.ofText? literal with
    | some access => pure access
    | none => .fail (.badLiteral address .accessType literal)

/-- The value that a section gives in a field, if it gives one. -/
def Section.typedValue (s : Section) (address : Address) (type : DataType) (node : Option UInt8)
    (field : Field) : Step (Option Value) :=
  match s.value? field.key with
  | none => pure none
  | some literal => Literal.value address field type node literal

/-- The limits and values that a section gives at its type.  Without a type there are none. -/
def Section.values (s : Section) (address : Address) (node : Option UInt8) (v : Variable) :
    Step Variable :=
  match v.dataType with
  | none => do
    if s.has Field.defaultValue.key || s.has Field.parameterValue.key then
      .note (.untypedValues s.name)
    pure v
  | some type => do
    let low ← s.typedValue address type node .lowLimit
    let high ← s.typedValue address type node .highLimit
    let default ← s.typedValue address type node .defaultValue
    let parameter ← s.typedValue address type node .parameterValue
    if type = .domain && s.has Field.defaultValue.key then
      .note (.domainDefault s.name)
    pure { v with
      lowLimit := low
      highLimit := high
      defaultValue := default
      parameterValue := parameter }

/-- The factor that a section gives; one if it gives none. -/
def Section.factor (s : Section) (address : Address) : Step Binary64 :=
  match s.value? Field.factor.key with
  | none => pure .one
  | some literal =>
    match (Binary64.ofText? literal.toList).filter Binary64.isFinite with
    | some x => pure x
    | none => .fail (.badLiteral address .factor literal)

/-! ### Labels and bits -/

/-- The raw value that a key denotes. -/
def rawValue? (key : String) : Option Int64 :=
  match Literal.integer? none key.toList with
  | some n =>
    if -0x8000000000000000 ≤ n ∧ n < 0x8000000000000000 then some (Int64.ofInt n) else none
  | none => none

/-- A bit of a 64-bit word, in decimal digits with at most a plus sign before them. -/
def bit? (s : List Char) : Option UInt8 :=
  let digits :=
    match Text.trim s with
    | '+' :: s => s
    | s => s
  ((Text.number? 10 digits).filter fun n => n < 64).map UInt8.ofNat

/-- The bits that a list with commas denotes. -/
def bits? (literal : String) : Option (List UInt8) := (literal.toList.splitOn ',').mapM bit?

/-- Labels for raw values, one for each entry of that family. -/
def Section.valueDescriptions (s : Section) (address : Address) (v : Variable) : Step Variable :=
  (s.family (Field.valueDescription.key ++ ".")).foldlM
    (fun v (raw, e) =>
      match rawValue? raw with
      | none => .fail (.badLiteral address .valueDescription raw)
      | some n => do
        .note (.valueDescribed s.name n e.value)
        pure (v.describe n e.value))
    v

/-- Fields of bits, one for each entry of that family. -/
def Section.bitDefinitions (s : Section) (address : Address) (v : Variable) : Step Variable :=
  (s.family (Field.bitDefinition.key ++ ".")).foldlM
    (fun v (field, e) =>
      match bits? e.value with
      | none => .fail (.badLiteral address .bitDefinition e.value)
      | some bits => pure (v.defineBits field bits))
    v

/-! ### The whole variable -/

/-- The variable that a section describes at an address, for a node. -/
def Sheet.variable (sheet : Sheet) (s : Section) (address : Address) (node : Option UInt8) :
    Step Variable := do
  let name ← s.parameterName
  let type ← sheet.dataType s address
  if type.isNone then
    .note (.typeMissing s.name name)
  let access ← s.access address
  let v ← s.values address node
    { Variable.blank name address.index address.subindex with dataType := type, access := access }
  let factor ← s.factor address
  let v ← s.valueDescriptions address
    { v with
      unit := (s.value? "Unit").getD ""
      factor := factor
      description := (s.value? "Description").getD "" }
  s.bitDefinitions address v

end DataSheet
