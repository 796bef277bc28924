/-
**Faults.**

Everything that can go wrong in reading a data sheet, in asking a dictionary, in emitting
declarations and in working on files, each with what is needed to find its cause.  The wording is
given in one place.

Main definitions:

* `Malformation` — how the text of a data sheet can be malformed;
* `Field` — the keys whose literals are checked;
* `Address`, `Key` — where a variable is, what can be looked up;
* `FileFault` — how work on a file can fail;
* `Fault` — the faults;
* `Fault.message` — their wording.
-/

import DataSheet.Text.Digits

set_option relaxedAutoImplicit false
set_option autoImplicit false

namespace DataSheet

/-! ### Parts of faults -/

/-- How the text of a data sheet can be malformed. -/
inductive Malformation
  | unterminatedHeader
  | emptyName
  | duplicateSection
  | noDelimiter
  | emptyKey
  | strayEntry
  | duplicateKey
  | noSections
  | subindexTooLarge
  | objectTypeNotInteger
  | objectTypeUnsupported
  | compactCount
  | nameCount
  | baudrate
  deriving DecidableEq

/-- The wording of a malformation. -/
def Malformation.text : Malformation → String
  | unterminatedHeader => "unterminated section header"
  | emptyName => "empty section name"
  | duplicateSection => "duplicate section"
  | noDelimiter => "expected 'key=value' or '[section]'"
  | emptyKey => "entry without a key"
  | strayEntry => "entry before the first section header"
  | duplicateKey => "duplicate key in section"
  | noSections => "document contains no sections"
  | subindexTooLarge => "subindex section above 0xFF"
  | objectTypeNotInteger => "ObjectType is not an integer"
  | objectTypeUnsupported => "unsupported ObjectType"
  | compactCount => "CompactSubObj is not a subindex count"
  | nameCount => "NrOfEntries is not a subindex count"
  | baudrate => "Baudrate is not an integer"

/-- The keys of a section whose literals are checked against a type. -/
inductive Field
  | dataType
  | accessType
  | lowLimit
  | highLimit
  | defaultValue
  | parameterValue
  | factor
  | valueDescription
  | bitDefinition
  deriving DecidableEq

/-- The key of a field; for the last two, of a family of entries, without the dot behind it. -/
def Field.key : Field → String
  | dataType => "DataType"
  | accessType => "AccessType"
  | lowLimit => "LowLimit"
  | highLimit => "HighLimit"
  | defaultValue => "DefaultValue"
  | parameterValue => "ParameterValue"
  | factor => "Factor"
  | valueDescription => "ValueDescription"
  | bitDefinition => "BitDefinition"

/-- The address of a variable. -/
structure Address where
  index : UInt16
  subindex : UInt8
  deriving DecidableEq

/-- An index as messages show it. -/
def indexText (index : UInt16) : String := "0x" ++ Text.upperHex 4 index.toNat

/-- A subindex as messages show it. -/
def subindexText (subindex : UInt8) : String := Text.upperHex 2 subindex.toNat

/-- An address in one word. -/
def Address.text (a : Address) : String := indexText a.index ++ "sub" ++ subindexText a.subindex

/-- An address in words. -/
def Address.phrase (a : Address) : String :=
  "index " ++ indexText a.index ++ " subIndex 0x" ++ subindexText a.subindex

/-- What can be looked up in a dictionary. -/
inductive Key
  | index (i : UInt16)
  | name (n : String)
  | member (i : UInt16) (subindex : UInt16)
  deriving DecidableEq

/-- A key as messages show it. -/
def Key.text : Key → String
  | index i => "0x" ++ Text.upperHex 1 i.toNat
  | name n => n
  | member i s => "Subindex " ++ Text.decimal 1 s.toNat ++ " of 0x" ++ Text.upperHex 1 i.toNat

/-- Why an element of an array cannot be synthesized. -/
inductive ElementFault
  | outOfRange
  | noTemplate
  deriving DecidableEq

/-- The wording of an element's fault. -/
def ElementFault.text : ElementFault → String
  | outOfRange => "array elements are addressed by subindex 1 to 255"
  | noTemplate => "array has no subindex 1 template"

/-- How work on a file can fail. -/
inductive FileFault
  | notFound
  | notDirectory
  | isDirectory
  | nameTooLong
  | nulInName
  | notText
  /-- Anything else, in the words of the operating system. -/
  | other (text : String)
  deriving DecidableEq

/-- The wording of a file's fault, which for those of the operating system ends in its number. -/
def FileFault.text : FileFault → String
  | notFound => "No such file or directory (os error 2)"
  | notDirectory => "Not a directory (os error 20)"
  | isDirectory => "Is a directory (os error 21)"
  | nameTooLong => "File name too long (os error 36)"
  | nulInName => "file name contained an unexpected NUL byte"
  | notText => "stream did not contain valid UTF-8"
  | other text => text

/-- Why declarations cannot be written to a place. -/
inductive DestinationFault
  | isDirectory
  | noParent
  | notCreated (f : FileFault)
  deriving DecidableEq

/-- The wording of a destination's fault. -/
def DestinationFault.text : DestinationFault → String
  | isDirectory => "destination is a directory"
  | noParent => "parent directory does not exist"
  | notCreated f => f.text

/-- The settings that must be valid where they are written. -/
inductive CheckedSetting
  | builderName
  | modulePath
  deriving DecidableEq

/-- The key of a checked setting. -/
def CheckedSetting.key : CheckedSetting → String
  | builderName => "builder_name"
  | modulePath => "module_path"

/-! ### Faults -/

/-- What can go wrong, with its cause. -/
inductive Fault
  /-- The text is malformed in a line, counted from one; zero stands for the whole text. -/
  | malformed (line : Nat) (how : Malformation)
  /-- The data type code of a variable leads to no type. -/
  | unknownType (address : Address) (code : UInt16)
  /-- A variable without a type is to be emitted. -/
  | untyped (address : Address)
  /-- A literal does not denote what its field asks for. -/
  | badLiteral (address : Address) (field : Field) (literal : String)
  | notFound (key : Key)
  | badElement (index subindex : UInt16) (why : ElementFault)
  | destination (path : String) (why : DestinationFault)
  /-- Two variables have one identifier. -/
  | duplicateIdentifier (identifier : String) (first second : Address)
  | badSetting (which : CheckedSetting) (value : String)
  /-- The sink refused the text. -/
  | refused
  /-- A file could not be read. -/
  | file (why : FileFault)
  deriving DecidableEq

/-- What a refusing sink says. -/
def refusalText : String := "an error occurred when formatting an argument"

/-- The wording of a fault. -/
def Fault.message : Fault → String
  | malformed line how => s!"Malformed EDS document at line {line}: {how.text}"
  | unknownType a code => s!"Unsupported data type 0x{Text.lowerHex 4 code.toNat} for {a.phrase}"
  | untyped a => s!"No data type resolved for {a.phrase}"
  | badLiteral a field literal => s!"Invalid {field.key} '{literal}' for {a.phrase}"
  | notFound key => s!"{key.text} was not found in Object Dictionary"
  | badElement index subindex why =>
    s!"Invalid subIndex {subindex.toNat} for array {indexText index}: {why.text}"
  | destination path why => s!"Destination '{path}' is unavailable: {why.text}"
  | duplicateIdentifier identifier first second =>
    s!"Identifier {identifier} is produced by both {first.text} and {second.text}"
  | badSetting which value => s!"Invalid emitter {which.key} '{value}'"
  | refused => s!"Formatting error: {refusalText}"
  | file why => s!"I/O error: {why.text}"

/-- What is said about a data type code that has no type. -/
def unknownCodeText (code : UInt16) : String :=
  s!"Unknown data type code: 0x{Text.lowerHex 4 code.toNat}"

end DataSheet
