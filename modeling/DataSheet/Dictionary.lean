/-
**Object dictionaries.**

A dictionary holds one object for each index in use: a plain variable, a record or an array.  It is
asked by index, by name, or by index and subindex for a single variable.

Main definitions:

* `Object` — what stands at an index;
* `Dictionary` — objects, the bitrate and the node id;
* `Dictionary.insert`, `Dictionary.exchange` — enters an object at its own index, and also tells
  which one it replaced;
* `Dictionary.get` — the object that a key denotes;
* `Dictionary.element` — the variable at an index and a subindex;
* `Dictionary.modify` — changes an object in place.

Main results:

* `Dictionary.find?_insert` — entering an object changes look-up at its own index only.
-/

import DataSheet.Group

set_option relaxedAutoImplicit false
set_option autoImplicit false

namespace DataSheet

/-- What stands at an index. -/
inductive Object
  | plain (v : Variable)
  | group (g : Group)
  deriving DecidableEq

namespace Object

/-- The index of an object. -/
def index : Object → UInt16
  | plain v => v.index
  | group g => g.index

/-- The name of an object. -/
def name : Object → String
  | plain v => v.name
  | group g => g.name

/-- The object under another name. -/
def rename (name : String) : Object → Object
  | plain v => plain { v with name := name }
  | group g => group { g with name := name }

/-- The objects are of one kind and at one address. -/
def sameAddress : Object → Object → Bool
  | plain v, plain w => v.sameAddress w
  | group g, group h => g.kind == h.kind && g.index == h.index
  | _, _ => false

@[simp] theorem index_rename (name : String) (o : Object) : (o.rename name).index = o.index := by
  cases o <;> rfl

end Object

/-- Objects are kept by index. -/
instance : Registered UInt16 Object := ⟨Object.index, Object.name⟩

/-- The objects of a device. -/
structure Dictionary where
  registry : Registry UInt16 Object
  /-- Bits per second, if the data sheet tells. -/
  bitrate : Option UInt32
  /-- The node for which the data sheet was read. -/
  nodeId : Option UInt8
  deriving DecidableEq

namespace Dictionary

/-- The dictionary without objects. -/
def empty : Dictionary := ⟨.empty, none, none⟩

/-- The objects by ascending index. -/
def objects (d : Dictionary) : List Object := d.registry.items

/-- The number of objects. -/
def size (d : Dictionary) : Nat := d.registry.size

/-- The object at an index. -/
def find? (d : Dictionary) (index : UInt16) : Option Object := d.registry.find? index

/-- There is an object at this index. -/
def contains (d : Dictionary) (index : UInt16) : Bool := (d.find? index).isSome

/-- Enters an object at its own index, in the stead of the one there. -/
def insert (d : Dictionary) (o : Object) : Dictionary := { d with registry := d.registry.insert o }

/-- Enters an object and tells what it replaced. -/
def define (d : Dictionary) (o : Object) : Step Dictionary := do
  match d.find? o.index with
  | some old => .note (.objectReplaced o.index old.name o.name)
  | none => pure ()
  pure (d.insert o)

/-- Enters an object and gives the one that it replaced. -/
def exchange (d : Dictionary) (o : Object) : Step (Option Object × Dictionary) := do
  pure (d.find? o.index, ← d.define o)

/-- Changes the object at an index in place.  The names that led to it still do. -/
def modify (d : Dictionary) (index : UInt16) (f : Object → Object) : Dictionary :=
  { d with registry := d.registry.modify index f }

/-- The object that a key denotes.  A member is none. -/
def get (d : Dictionary) (key : Key) : Except Fault Object :=
  let found :=
    match key with
    | .index i => d.find? i
    | .name n => d.registry.findByName? n
    | .member _ _ => none
  match found with
  | some o => .ok o
  | none => .error (.notFound key)

/-- The variable at an index and a subindex, made from a template where an array does not store
it. -/
def element (d : Dictionary) (index subindex : UInt16) : Except Fault Element := do
  match ← d.get (.index index) with
  | .plain v =>
    if subindex = 0 then .ok (.stored v) else .error (.notFound (.member index subindex))
  | .group g => g.element subindex

/-- The plain variables by ascending index. -/
def plainVariables (d : Dictionary) : List Variable :=
  d.objects.filterMap fun
    | .plain v => some v
    | .group _ => none

/-- The groups of one kind by ascending index. -/
def groups (d : Dictionary) (kind : GroupKind) : List Group :=
  d.objects.filterMap fun
    | .plain _ => none
    | .group g => if g.kind = kind then some g else none

/-- Entering an object changes what is found at its own index and nothing else. -/
theorem find?_insert (d : Dictionary) (o : Object) (index : UInt16) :
    (d.insert o).find? index = if o.index = index then some o else d.find? index :=
  Registry.find?_insert d.registry o index

@[simp] theorem outcome_define (d : Dictionary) (o : Object) :
    (d.define o).outcome = .ok (d.insert o) := by
  simp only [define]
  split <;> rfl

@[simp] theorem outcome_exchange (d : Dictionary) (o : Object) :
    (d.exchange o).outcome = .ok (d.find? o.index, d.insert o) := by
  simp only [exchange, Report.outcome_bind, outcome_define]
  rfl

end Dictionary

/-! ### Elements with notices -/

/-- Tells that an element was made from a template. -/
def Element.noted (index : UInt16) : Except Fault Element → Step Element
  | .ok (.synthesized template subindex) => do
    .note (.elementSynthesized ⟨index, subindex⟩ template.name)
    pure (.synthesized template subindex)
  | r => .ofExcept r

end DataSheet
