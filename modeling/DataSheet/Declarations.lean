/-
**Declarations.**

A dictionary is written as declarations: a constant for each variable, members of groups included,
and a function that assembles the constants.  The text is complete before any of it is written, so a
sink gets all of it or nothing.

Main definitions:

* `Declaration` — a constant and the variable that it stands for;
* `Dictionary.declarations` — the constants of a dictionary;
* `Dictionary.project` — checks that no two constants share an identifier;
* `defaultLiteral` — the default of a variable as an expression;
* `Dictionary.render` — the text of the declarations;
* `Sink`, `Dictionary.emit` — writing the text.
-/

import DataSheet.Dictionary
import DataSheet.Number.Layout
import DataSheet.Settings
import DataSheet.Text.Quoted

set_option relaxedAutoImplicit false
set_option autoImplicit false

namespace DataSheet

/-! ### Constants -/

/-- A constant: its identifier and the variable that it stands for. -/
structure Declaration where
  identifier : String
  subject : Variable
  deriving DecidableEq

/-- The address of a variable. -/
def Variable.address (v : Variable) : Address := ⟨v.index, v.subindex⟩

/-- The name under which a member of a group is declared. -/
def Settings.memberName (c : Settings) (group member : String) : String :=
  group ++ c.memberSeparator ++ member

/-- The constant of a variable under a name. -/
def Settings.declare (c : Settings) (name : String) (v : Variable) : Declaration :=
  ⟨Identifier.ofName c.constantStart name, v⟩

/-- The constants of an object. -/
def Object.declarations (c : Settings) : Object → List Declaration
  | .plain v => [c.declare v.name v]
  | .group g => g.members.items.map fun m => c.declare (c.memberName g.name m.name) m

/-- The constants of a dictionary, object by object. -/
def Dictionary.declarations (d : Dictionary) (c : Settings) : List Declaration :=
  d.objects.flatMap (Object.declarations c)

/-- The identifiers in use, each with the address of its variable. -/
abbrev InUse := List (String × Address)

/-- Takes an identifier into use, unless it is in use already. -/
def InUse.take (used : InUse) (d : Declaration) : Except Fault InUse :=
  match used.find? fun u => u.1 = d.identifier with
  | some u => .error (.duplicateIdentifier d.identifier u.2 d.subject.address)
  | none => .ok ((d.identifier, d.subject.address) :: used)

/-- Takes the identifiers of an object into use. -/
def InUse.project (c : Settings) (used : InUse) (o : Object) : Step InUse := do
  let used ← .ofExcept ((o.declarations c).foldlM InUse.take used)
  .note (.objectProjected o.index o.name)
  pure used

/-- Checks that no two constants of a dictionary share an identifier. -/
def Dictionary.project (d : Dictionary) (c : Settings) : Step Unit := do
  let _ ← d.objects.foldlM (InUse.project c) []

/-! ### Expressions -/

/-- A value, under the name of its type, as an expression. -/
def Value.expression (type : DataType) : Value → String
  | .boolean b => type.name ++ "(" ++ (if b then "true" else "false") ++ ")"
  | .signed n =>
    type.name ++ "(" ++ (if n < 0 then "-" else "") ++ "0x" ++
      Text.lowerHex 1 n.toInt.natAbs ++ ")"
  | .unsigned n => type.name ++ "(0x" ++ Text.lowerHex 1 n.toNat ++ ")"
  | .float x => "Float(" ++ x.text ++ ")"
  | .text s => "String(" ++ String.ofList (Text.Quoted.encode s.toList) ++ ")"

/-- The default of a variable as an expression.  A domain has none. -/
def defaultLiteral (v : Variable) : Except Fault String :=
  match v.dataType with
  | none => .error (.untyped v.address)
  | some type =>
    match v.defaultValue with
    | none => .ok "None"
    | some value =>
      if type = .domain then .ok "None"
      else .ok ("Some(DataValue::" ++ value.expression type ++ ")")

/-! ### Text -/

/-- The lines of a constant. -/
def Declaration.lines (d : Declaration) : Except Fault (List String) := do
  let literal ← defaultLiteral d.subject
  .ok
    ["pub const " ++ d.identifier ++ ": Variable =",
      "    Variable::new(" ++ indexText d.subject.index ++ ", 0x" ++
        subindexText d.subject.subindex ++ ", " ++ literal ++ ");"]

/-- The name of a kind of groups in declarations. -/
def GroupKind.typeName : GroupKind → String
  | record => "Record"
  | array => "Array"

/-- The name of the function that adds a group of a kind. -/
def GroupKind.adder : GroupKind → String
  | record => "add_record"
  | array => "add_array"

/-- The lines that assemble the members of a group. -/
def memberLines (identifiers : List String) : List String :=
  if identifiers = [] then ["        members: vec![],"]
  else
    "        members: vec![" ::
      identifiers.map (fun i => "            " ++ i ++ ",") ++ ["        ],"]

/-- The lines that assemble an object. -/
def Object.assembly (c : Settings) (o : Object) : List String :=
  let identifiers := (o.declarations c).map Declaration.identifier
  match o with
  | .plain _ => identifiers.map fun i => "    od.add_variable(" ++ i ++ ");"
  | .group g =>
    ["    od." ++ g.kind.adder ++ "(" ++ g.kind.typeName ++ " \x7b",
      "        index: " ++ indexText g.index ++ ","] ++
      memberLines identifiers ++ ["    \x7d);"]

/-- The lines before the constants. -/
def Settings.preamble (c : Settings) : List String :=
  ["// This file is generated from an EDS file. Do not edit it by hand.",
    "",
    "use " ++ c.modulePath ++ "::\x7bArray, DataValue, ObjectDictionary, Record, Variable\x7d;",
    ""]

/-- The lines of the function that assembles the constants. -/
def Dictionary.builder (d : Dictionary) (c : Settings) : List String :=
  ["",
    "pub fn " ++ c.builderName ++ "() -> ObjectDictionary \x7b",
    "    let mut od = ObjectDictionary::default();"] ++
    d.objects.flatMap (Object.assembly c) ++ ["    od", "\x7d"]

/-- Lines as one text, each with its line feed. -/
def textOfLines (lines : List String) : String :=
  String.ofList (lines.flatMap fun l => l.toList ++ ['\n'])

/-- The text of the declarations of a dictionary. -/
def Dictionary.render (d : Dictionary) (c : Settings) : Step String := do
  .ofExcept c.check
  d.project c
  let constants ← .ofExcept ((d.declarations c).mapM Declaration.lines)
  pure (textOfLines (c.preamble ++ constants.flatten ++ d.builder c))

/-! ### Writing -/

/-- What text is written to: the writes it has taken, and whether it refuses more. -/
structure Sink where
  taken : List String
  refusing : Bool
  deriving DecidableEq

namespace Sink

/-- A sink that takes everything, with nothing in it. -/
def accepting : Sink := ⟨[], false⟩

/-- A sink that takes nothing. -/
def rejecting : Sink := ⟨[], true⟩

/-- Writes a text, as a whole. -/
def write? (s : Sink) (text : String) : Option Sink :=
  if s.refusing then none else some { s with taken := s.taken ++ [text] }

/-- All that is in the sink. -/
def content (s : Sink) : String := String.join s.taken

end Sink

/-- Writes the declarations of a dictionary in one piece, and gives the sink as it is afterwards. -/
def Dictionary.emit (d : Dictionary) (c : Settings) (s : Sink) : Sink × Step Unit :=
  let rendered := d.render c
  match rendered.outcome with
  | .error f => (s, ⟨rendered.notices, .error f⟩)
  | .ok text =>
    match s.write? text with
    | none => (s, ⟨rendered.notices, .error .refused⟩)
    | some s =>
      (s, ⟨rendered.notices ++ [.declarationsEmitted (d.declarations c).length d.size], .ok ()⟩)

end DataSheet
