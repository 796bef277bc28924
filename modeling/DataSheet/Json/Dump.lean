/-
**Dictionaries as JSON.**

The dump of a dictionary tells everything about it.  Objects and members are keyed by index and
subindex; a choice between alternatives is shown by an object with the name of the alternative as
its only key, or by the name alone where nothing belongs to it.

Main definitions:

* `Variable.json`, `Object.json`, `Dictionary.json` — the JSON values;
* `Dictionary.dump` — the text;
* `Settings.json` — settings as a JSON value.
-/

import DataSheet.Dictionary
import DataSheet.Json.Printer
import DataSheet.Settings

set_option relaxedAutoImplicit false
set_option autoImplicit false

namespace DataSheet

/-! ### Parts of variables -/

/-- The name of a data type. -/
def DataType.jsonName : DataType → String
  | boolean => "Boolean"
  | integer8 => "Integer8"
  | integer16 => "Integer16"
  | integer32 => "Integer32"
  | unsigned8 => "Unsigned8"
  | unsigned16 => "Unsigned16"
  | unsigned32 => "Unsigned32"
  | real32 => "Real32"
  | visibleString => "VisibleString"
  | octetString => "OctetString"
  | unicodeString => "UnicodeString"
  | domain => "Domain"
  | real64 => "Real64"
  | integer64 => "Integer64"
  | unsigned64 => "Unsigned64"

/-- The name of an access. -/
def AccessType.jsonName : AccessType → String
  | readWrite => "ReadWrite"
  | readOnly => "ReadOnly"
  | writeOnly => "WriteOnly"
  | constant => "Constant"

/-- A value under the name of its kind. -/
def Value.json : Value → Json
  | boolean b => .object [("Boolean", .bool b)]
  | signed n => .object [("Signed", .int n.toInt)]
  | unsigned n => .object [("Unsigned", .int n.toNat)]
  | float x => .object [("Float", .real x)]
  | text s => .object [("Text", .string s)]

/-- What may be absent. -/
def Json.ofOption {α : Type} (f : α → Json) : Option α → Json
  | none => .null
  | some a => f a

/-- A natural number as the key of a member. -/
def Json.natKey (n : Nat) : String := Text.decimal 1 n

/-- A whole number as the key of a member. -/
def Json.intKey (n : Int) : String := String.ofList (Json.intText n)

/-! ### Variables, objects and dictionaries -/

/-- A variable with all its attributes. -/
def Variable.json (v : Variable) : Json :=
  .object
    [("index", .int v.index.toNat),
      ("subindex", .int v.subindex.toNat),
      ("name", .string v.name),
      ("data_type", Json.ofOption (fun t => .string t.jsonName) v.dataType),
      ("unit", .string v.unit),
      ("factor", .real v.factor),
      ("min", Json.ofOption Value.json v.lowLimit),
      ("max", Json.ofOption Value.json v.highLimit),
      ("default", Json.ofOption Value.json v.defaultValue),
      ("value", Json.ofOption Value.json v.parameterValue),
      ("access_type", .string v.access.jsonName),
      ("description", .string v.description),
      ("value_descriptions",
        .object (v.valueDescriptions.map fun e => (Json.intKey e.1.toInt, .string e.2))),
      ("bit_definitions",
        .object (v.bitDefinitions.map fun e =>
          (e.1, .array (e.2.map fun b => .int b.toNat))))]

/-- A group with its members. -/
def Group.json (g : Group) : Json :=
  .object
    [("index", .int g.index.toNat),
      ("name", .string g.name),
      ("description", .string g.description),
      ("members",
        .object (g.members.items.map fun m => (Json.natKey m.subindex.toNat, m.json)))]

/-- The name of a kind of groups. -/
def GroupKind.jsonName : GroupKind → String
  | record => "Record"
  | array => "Array"

/-- An object under the name of its kind. -/
def Object.json : Object → Json
  | plain v => .object [("Variable", v.json)]
  | group g => .object [(g.kind.jsonName, g.json)]

/-- A dictionary with its objects. -/
def Dictionary.json (d : Dictionary) : Json :=
  .object
    [("objects", .object (d.objects.map fun o => (Json.natKey o.index.toNat, o.json))),
      ("bitrate", Json.ofOption (fun b : UInt32 => .int b.toNat) d.bitrate),
      ("node_id", Json.ofOption (fun n : UInt8 => .int n.toNat) d.nodeId)]

/-- The dump of a dictionary. -/
def Dictionary.dump (d : Dictionary) : String := d.json.pretty

/-- The keys of settings, in order. -/
def Settings.keys : List String := ["prefix", "module_path", "builder_name", "member_separator"]

/-- Settings under their keys. -/
def Settings.json (c : Settings) : Json :=
  .object (Settings.keys.zip
    [.string c.constantStart, .string c.modulePath, .string c.builderName,
      .string c.memberSeparator])

end DataSheet
