/-
**The data types of a dictionary.**

The vocabulary is closed: fifteen encodings, each with the code by which a data sheet refers to it
and the name by which declarations do.

Main definitions:

* `DataType` — the encodings;
* `DataType.code`, `DataType.ofCode?` — their codes;
* `DataType.name` — their names;
* `DataType.range?` — the values of an integer type.

Main results:

* `DataType.ofCode?_eq_some_iff` — a code stands for a type exactly if it is that type's code.
-/

set_option relaxedAutoImplicit false
set_option autoImplicit false

namespace DataSheet

/-- The encodings that a variable may have. -/
inductive DataType
  | boolean
  | integer8
  | integer16
  | integer32
  | unsigned8
  | unsigned16
  | unsigned32
  | real32
  | visibleString
  | octetString
  | unicodeString
  | domain
  | real64
  | integer64
  | unsigned64
  deriving DecidableEq

namespace DataType

/-- All types, in the order of their codes. -/
def all : List DataType :=
  [boolean, integer8, integer16, integer32, unsigned8, unsigned16, unsigned32, real32,
    visibleString, octetString, unicodeString, domain, real64, integer64, unsigned64]

/-- The code of a type in a data sheet. -/
def code : DataType → UInt16
  | boolean => 0x01
  | integer8 => 0x02
  | integer16 => 0x03
  | integer32 => 0x04
  | unsigned8 => 0x05
  | unsigned16 => 0x06
  | unsigned32 => 0x07
  | real32 => 0x08
  | visibleString => 0x09
  | octetString => 0x0A
  | unicodeString => 0x0B
  | domain => 0x0F
  | real64 => 0x11
  | integer64 => 0x15
  | unsigned64 => 0x1B

/-- The type with a given code. -/
def ofCode? (code : UInt16) : Option DataType := all.find? fun t => t.code = code

/-- The name of a type, which also tags values of the type in declarations. -/
def name : DataType → String
  | boolean => "BOOLEAN"
  | integer8 => "INTEGER8"
  | integer16 => "INTEGER16"
  | integer32 => "INTEGER32"
  | unsigned8 => "UNSIGNED8"
  | unsigned16 => "UNSIGNED16"
  | unsigned32 => "UNSIGNED32"
  | real32 => "REAL32"
  | visibleString => "VISIBLE_STRING"
  | octetString => "OCTET_STRING"
  | unicodeString => "UNICODE_STRING"
  | domain => "DOMAIN"
  | real64 => "REAL64"
  | integer64 => "INTEGER64"
  | unsigned64 => "UNSIGNED64"

/-! ### Classes of types -/

/-- The signed integer types. -/
def isSigned : DataType → Bool
  | integer8 | integer16 | integer32 | integer64 => true
  | _ => false

/-- The unsigned integer types. -/
def isUnsigned : DataType → Bool
  | unsigned8 | unsigned16 | unsigned32 | unsigned64 => true
  | _ => false

/-- The integer types. -/
def isInteger (t : DataType) : Bool := t.isSigned || t.isUnsigned

/-- The floating-point types. -/
def isFloat : DataType → Bool
  | real32 | real64 => true
  | _ => false

/-- The types whose values are taken as they are written, and the opaque domain. -/
def isString : DataType → Bool
  | visibleString | octetString | unicodeString | domain => true
  | _ => false

/-- The least and the greatest value of an integer type. -/
def range? : DataType → Option (Int × Int)
  | integer8 => some (-0x80, 0x7F)
  | integer16 => some (-0x8000, 0x7FFF)
  | integer32 => some (-0x80000000, 0x7FFFFFFF)
  | integer64 => some (-0x8000000000000000, 0x7FFFFFFFFFFFFFFF)
  | unsigned8 => some (0, 0xFF)
  | unsigned16 => some (0, 0xFFFF)
  | unsigned32 => some (0, 0xFFFFFFFF)
  | unsigned64 => some (0, 0xFFFFFFFFFFFFFFFF)
  | _ => none

/-! ### Codes and ranges -/

@[simp] theorem ofCode?_code (t : DataType) : ofCode? t.code = some t := by
  cases t <;> decide

/-- A code stands for a type exactly if it is that type's code. -/
theorem ofCode?_eq_some_iff {c : UInt16} {t : DataType} : ofCode? c = some t ↔ t.code = c := by
  constructor
  · intro h
    simpa using List.find?_some h
  · rintro rfl
    exact ofCode?_code t

/-- A type has a range exactly if it is an integer type. -/
theorem isSome_range? (t : DataType) : t.range?.isSome = t.isInteger := by cases t <;> rfl

end DataType

end DataSheet
