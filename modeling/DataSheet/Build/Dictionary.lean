/-
**Dictionaries from data sheets.**

A dictionary is built in three passes over the sections of a data sheet: the objects first, then the
members that have sections of their own, then the members that lists of names add.  So it does not
matter where in the text a section stands, as long as no two describe the same thing.

Main definitions:

* `Sheet.object` — the object that a section describes;
* `Dictionary.addObject`, `Dictionary.addMember`, `Dictionary.addNames`, `Dictionary.commission`,
  `Dictionary.addDummies` — what a section of each kind adds;
* `Sheet.dictionary` — the dictionary that a data sheet describes;
* `Dictionary.ofText` — the dictionary that a text describes.
-/

import DataSheet.Build.Variable
import DataSheet.Dictionary
import DataSheet.Sheet.Heading
import DataSheet.Sheet.Reader

set_option relaxedAutoImplicit false
set_option autoImplicit false

namespace DataSheet

/-! ### Objects -/

/-- The whole number in an entry, if there is such an entry. -/
def Entry.integer? (e : Entry) : Option Int := Literal.integer? none e.value.toList

/-- The count in an entry, which must not be above 255. -/
def Entry.count (e : Entry) (how : Malformation) : Step UInt8 :=
  match Literal.count? e.value.toList with
  | some n => pure n
  | none => .fail (.malformed e.line how)

/-- The kinds of objects that a section may describe. -/
inductive ObjectKind
  | plain
  | compact
  | group (kind : GroupKind)
  deriving DecidableEq

/-- The kind of object that a section describes, by the code of its object type.  Without a code it
is a variable. -/
def Section.objectKind (s : Section) : Step ObjectKind :=
  match s.entry? "ObjectType" with
  | none => pure .plain
  | some e =>
    match e.integer? with
    | none => .fail (.malformed e.line .objectTypeNotInteger)
    | some code =>
      if code = 7 ∨ code = 2 then pure .plain
      else if code = 8 ∨ code = 9 then
        if s.has "CompactSubObj" then pure .compact
        else pure (.group (if code = 8 then .record else .array))
      else .fail (.malformed e.line .objectTypeUnsupported)

/-- The member that tells how many elements a compact array has. -/
def Section.countMember (s : Section) (index : UInt16) : Step Variable := do
  let blank : Variable :=
    { Variable.blank "Number of entries" index 0 with
      dataType := some .unsigned8
      access := .readOnly }
  match s.entry? "CompactSubObj" with
  | none => pure blank
  | some e => do
    let n ← e.count .compactCount
    pure { blank with defaultValue := some (.unsigned n.toUInt64) }

/-- An array in short form.  It has the count of its elements and a template, which the section of
the array itself describes. -/
def Sheet.compactArray (sheet : Sheet) (s : Section) (index : UInt16) (node : Option UInt8) :
    Step Group := do
  let name ← s.parameterName
  let count ← s.countMember index
  let g ← (Group.empty .array name index).define count
  let template ← sheet.variable s ⟨index, Group.templateSubindex⟩ node
  g.define template

/-- The object that a section describes at an index. -/
def Sheet.object (sheet : Sheet) (s : Section) (index : UInt16) (node : Option UInt8) :
    Step Object := do
  match ← s.objectKind with
  | .plain => do
    let v ← sheet.variable s ⟨index, 0⟩ node
    pure (.plain v)
  | .compact => do
    let g ← sheet.compactArray s index node
    pure (.group g)
  | .group kind => do
    let name ← s.parameterName
    pure (.group { Group.empty kind name index with
      description := (s.value? "Description").getD "" })

namespace Dictionary

/-- Adds the object that a section describes. -/
def addObject (d : Dictionary) (sheet : Sheet) (s : Section) (index : UInt16) :
    Step Dictionary := do
  let o ← sheet.object s index d.nodeId
  .note (.objectBuilt index o.name s.name)
  d.define o

/-! ### Members -/

/-- Enters a member into the group at an index, if there is one. -/
def insertMember (d : Dictionary) (index : UInt16) (v : Variable) : Dictionary :=
  d.modify index fun
    | .plain w => .plain w
    | .group g => .group (g.insert v)

/-- Enters a member into a group that stands at an index, and tells what it replaced. -/
def defineMember (d : Dictionary) (index : UInt16) (g : Group) (v : Variable) :
    Step Dictionary := do
  let _ ← g.define v
  pure (d.insertMember index v)

/-- Adds the member that a section describes.  A plain variable has no members. -/
def addMember (d : Dictionary) (sheet : Sheet) (s : Section) (address : Address) :
    Step Dictionary := do
  let v ← sheet.variable s address d.nodeId
  match ← .ofExcept (d.get (.index address.index)) with
  | .plain _ => do
    .note (.notAGroup s.name address.index)
    pure d
  | .group g => do
    let d ← d.defineMember address.index g v
    .note (.memberAttached address s.name)
    pure d

/-- The numbers and names that a list of names gives, for numbers up to `count`. -/
def listedNames (s : Section) (count : UInt8) : List (UInt8 × String) :=
  (List.range count.toNat).filterMap fun k =>
    (s.value? (Text.decimal 1 (k + 1))).map fun name => (UInt8.ofNat (k + 1), name)

/-- The member that a list of names adds: the template with another name and subindex. -/
def namedMember (template : Variable) (subindex : UInt8) (name : String) : Variable :=
  { template with name := name, subindex := subindex }

/-- Enters one named member. -/
def addName (index : UInt16) (template : Variable) (d : Dictionary) (listed : UInt8 × String) :
    Step Dictionary :=
  match d.find? index with
  | some (.group g) => d.defineMember index g (namedMember template listed.1 listed.2)
  | _ => pure d

/-- Adds the members that a list of names gives, all of them like the first member of the group.  A
plain variable has no members. -/
def addNames (d : Dictionary) (s : Section) (index : UInt16) : Step Dictionary := do
  let count ←
    match s.entry? "NrOfEntries" with
    | none => pure 0
    | some e => e.count .nameCount
  match ← .ofExcept (d.get (.index index)) with
  | .plain _ => do
    .note (.notAGroup s.name index)
    pure d
  | .group g => do
    let template ← .ofExcept (g.element Group.templateSubindex.toUInt16)
    (listedNames s count).foldlM (addName index template.get) d

/-! ### Sections with names of their own -/

/-- Takes over the bitrate, which is given in kilobits per second. -/
def commission (d : Dictionary) (s : Section) : Step Dictionary :=
  match s.entry? "Baudrate" with
  | none => pure d
  | some e =>
    match e.integer? with
    | none => .fail (.malformed e.line .baudrate)
    | some n =>
      if 0 ≤ n ∧ n * 1000 < 0x100000000 then
        pure { d with bitrate := some (UInt32.ofNat (n * 1000).toNat) }
      else .fail (.malformed e.line .baudrate)

/-- The key that turns the dummy object at an index on. -/
def dummyKey (index : Nat) : String := "Dummy" ++ Text.decimal 4 index

/-- The dummy object of an index: a constant whose type has the index as its code. -/
def dummy (index : Nat) : Variable :=
  { Variable.blank (dummyKey index) (UInt16.ofNat index) 0 with
    dataType := DataType.ofCode? (UInt16.ofNat index)
    access := .constant }

/-- The indices of the dummy objects that a section turns on. -/
def dummies (s : Section) : List Nat :=
  [1, 2, 3, 4, 5, 6, 7].filter fun i =>
    (s.entry? (dummyKey i)).bind Entry.integer? = some 1

/-- Adds the dummy objects that a section turns on. -/
def addDummies (d : Dictionary) (s : Section) : Step Dictionary :=
  (dummies s).foldlM (fun d i => d.define (.plain (dummy i))) d

/-! ### The passes -/

/-- The first pass: objects and what has a name of its own. -/
def firstPass (sheet : Sheet) (d : Dictionary) (headed : Section × Heading) : Step Dictionary :=
  match headed.2 with
  | .commissioning => d.commission headed.1
  | .dummyUsage => d.addDummies headed.1
  | .object index => d.addObject sheet headed.1 index
  | _ => pure d

/-- The second pass: members. -/
def secondPass (sheet : Sheet) (d : Dictionary) (headed : Section × Heading) : Step Dictionary :=
  match headed.2 with
  | .member index subindex => d.addMember sheet headed.1 ⟨index, subindex⟩
  | _ => pure d

/-- The third pass: lists of names. -/
def thirdPass (d : Dictionary) (headed : Section × Heading) : Step Dictionary :=
  match headed.2 with
  | .nameList index => d.addNames headed.1 index
  | _ => pure d

end Dictionary

/-- A section with what it is about. -/
def Section.headed (s : Section) : Except Fault (Section × Heading) :=
  match Heading.ofName s.name with
  | .ok h => .ok (s, h)
  | .error how => .error (.malformed s.line how)

/-- The dictionary that a data sheet describes for a node. -/
def Sheet.dictionary (sheet : Sheet) (node : Option UInt8) : Step Dictionary := do
  let headed ← .ofExcept (sheet.sections.mapM Section.headed)
  let d ← headed.foldlM (Dictionary.firstPass sheet) { Dictionary.empty with nodeId := node }
  let d ← headed.foldlM (Dictionary.secondPass sheet) d
  headed.foldlM Dictionary.thirdPass d

/-- The dictionary that a text describes for a node. -/
def Dictionary.ofText (text : String) (node : Option UInt8) : Step Dictionary := do
  let sheet ← Sheet.ofText text
  let d ← sheet.dictionary node
  .note (.sheetRead sheet.sections.length d.size)
  pure d

end DataSheet
