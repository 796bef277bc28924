/-
**Groups of variables.**

A record lists all its members.  An array lists some of its elements; the others follow from a
template, the element at subindex one.

Main definitions:

* `Group` — a record or an array;
* `Group.insert` — enters a member at its own subindex;
* `Group.element` — the member or element at a subindex;
* `Group.memberNamed` — the stored member to which a name leads.
-/

import DataSheet.Notice
import DataSheet.Registry
import DataSheet.Variable

set_option relaxedAutoImplicit false
set_option autoImplicit false

namespace DataSheet

/-- Members are kept by subindex. -/
instance : Registered UInt8 Variable := ⟨Variable.subindex, Variable.name⟩

/-- Members in ascending order of their subindex. -/
abbrev Members := Registry UInt8 Variable

/-- The two kinds of groups. -/
inductive GroupKind
  | record
  | array
  deriving DecidableEq

/-- Variables that share an index. -/
structure Group where
  kind : GroupKind
  index : UInt16
  name : String
  description : String
  members : Members
  deriving DecidableEq

/-- What stands at a subindex of a group: a stored member, or an element made from a template. -/
inductive Element
  | stored (v : Variable)
  | synthesized (template : Variable) (subindex : UInt8)
  deriving DecidableEq

/-- The variable that an element is. -/
def Element.get : Element → Variable
  | stored v => v
  | synthesized template subindex => template.element subindex

/-- The element is not stored. -/
def Element.isSynthesized : Element → Bool
  | stored _ => false
  | synthesized .. => true

namespace Group

/-- The subindex of an array's template. -/
def templateSubindex : UInt8 := 1

/-- A group without members. -/
def empty (kind : GroupKind) (name : String) (index : UInt16) : Group :=
  ⟨kind, index, name, "", .empty⟩

/-- The stored member at a subindex. -/
def member? (g : Group) (subindex : UInt8) : Option Variable := g.members.find? subindex

/-- A member is stored at this subindex. -/
def contains (g : Group) (subindex : UInt8) : Bool := (g.member? subindex).isSome

/-- The number of stored members. -/
def size (g : Group) : Nat := g.members.size

/-- The element from which others are made, if it is stored. -/
def template? (g : Group) : Option Variable := g.member? templateSubindex

/-- Enters a member at its own subindex, in the stead of the one there. -/
def insert (g : Group) (v : Variable) : Group := { g with members := g.members.insert v }

/-- Enters a member and tells what it replaced. -/
def define (g : Group) (v : Variable) : Step Group := do
  match g.member? v.subindex with
  | some old => .note (.memberReplaced ⟨g.index, v.subindex⟩ old.name v.name)
  | none => pure ()
  pure (g.insert v)

/-- A subindex of sixteen bits as one of eight, if it is small enough. -/
def narrow? (subindex : UInt16) : Option UInt8 :=
  if subindex.toNat < 256 then some subindex.toUInt8 else none

/-- The member or element at a subindex.  A record has what it stores.  An array also has all
elements from one to 255, if its template is stored. -/
def element (g : Group) (subindex : UInt16) : Except Fault Element :=
  match (narrow? subindex).bind g.member? with
  | some v => .ok (.stored v)
  | none =>
    match g.kind with
    | .record => .error (.notFound (.member g.index subindex))
    | .array =>
      match narrow? subindex, g.template? with
      | none, _ => .error (.badElement g.index subindex .outOfRange)
      | some s, template =>
        if s = 0 then .error (.badElement g.index subindex .outOfRange)
        else
          match template with
          | none => .error (.badElement g.index subindex .noTemplate)
          | some t => .ok (.synthesized t s)

/-- The stored member to which a name leads. -/
def memberNamed (g : Group) (name : String) : Except Fault Variable :=
  match g.members.findByName? name with
  | some v => .ok v
  | none => .error (.notFound (.name name))

theorem member?_insert (g : Group) (v : Variable) (s : UInt8) :
    (g.insert v).member? s = if v.subindex = s then some v else g.member? s :=
  Registry.find?_insert g.members v s

@[simp] theorem outcome_define (g : Group) (v : Variable) :
    (g.define v).outcome = .ok (g.insert v) := by
  simp only [define]
  split <;> rfl

end Group

end DataSheet
