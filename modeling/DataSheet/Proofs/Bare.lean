/-
**What the memory of names does not touch.**

A registry remembers which of several carriers a name leads to, and that depends on the order in
which they were entered.  Objects and members themselves, what reading looks up, and all that is
emitted do not depend on it: they are the same in bare dictionaries, whose memory is erased.

Main definitions:

* `Group.bare`, `Object.bare`, `Dictionary.bare` — without the memory of names.

Main results:

* `Dictionary.bare_insert`, `Dictionary.bare_insertMembers` — entering objects and members;
* `Object.named_bare` — what a list of names adds;
* `Dictionary.emit_bare` — **emitting does not depend on the memory of names**.
-/

import DataSheet.Declarations
import DataSheet.Proofs.Passes

set_option relaxedAutoImplicit false
set_option autoImplicit false

namespace DataSheet

/-! ### Bare objects -/

/-- The group without the memory of its members' names. -/
def Group.bare (g : Group) : Group := { g with members := ⟨g.members.items, []⟩ }

namespace Object

/-- The object without the memory of its members' names. -/
def bare : Object → Object
  | plain v => plain v
  | group g => group g.bare

@[simp] theorem index_bare (o : Object) : o.bare.index = o.index := by cases o <;> rfl

@[simp] theorem name_bare (o : Object) : o.bare.name = o.name := by cases o <;> rfl

@[simp] theorem bare_bare (o : Object) : o.bare.bare = o.bare := by cases o <;> rfl

theorem bare_attach (o : Object) (v : Variable) : (o.bare.attach v).bare = (o.attach v).bare := by
  cases o <;> rfl

@[simp] theorem only_bare (o : Object) (v : Variable) : o.bare.only v = o.only v := by
  cases o <;> rfl

/-- What a list of names adds to an object depends on its members only. -/
@[simp] theorem named_bare (o : Object) (s : Section) (count : UInt8) :
    o.bare.named s count = o.named s count := by
  cases o <;> rfl

end Object

/-! ### Bare dictionaries -/

namespace Dictionary

/-- The dictionary without the memory of names. -/
def bare (d : Dictionary) : Dictionary := { d with registry := ⟨d.objects.map Object.bare, []⟩ }

theorem objects_bare (d : Dictionary) : d.bare.objects = d.objects.map Object.bare := rfl

theorem find?_bare (d : Dictionary) (index : UInt16) :
    d.bare.find? index = (d.find? index).map Object.bare :=
  Ascending.find?_map Object.index_bare index d.objects

/-- Two dictionaries are the same but for the memory of names if their objects and their further
fields are. -/
theorem bare_ext {d e : Dictionary} (ho : d.objects.map Object.bare = e.objects.map Object.bare)
    (hb : d.bitrate = e.bitrate) (hn : d.nodeId = e.nodeId) : d.bare = e.bare := by
  unfold bare
  rw [ho, hb, hn]

theorem objects_insert (d : Dictionary) (o : Object) :
    (d.insert o).objects = Ascending.insert Object.index o d.objects := rfl

theorem objects_insertMember (d : Dictionary) (index : UInt16) (v : Variable) :
    (d.insertMember index v).objects =
      d.objects.map fun o => if o.index = index then o.attach v else o := by
  rw [insertMember_eq_modify]
  rfl

theorem bare_insert (d : Dictionary) (o : Object) : (d.bare.insert o).bare = (d.insert o).bare := by
  refine bare_ext ?_ rfl rfl
  rw [objects_insert, objects_insert, Ascending.map_insert Object.index_bare,
    Ascending.map_insert Object.index_bare, objects_bare, List.map_map]
  congr 1
  exact List.map_congr_left fun o _ => Object.bare_bare o

theorem bare_insertMember (d : Dictionary) (index : UInt16) (v : Variable) :
    (d.bare.insertMember index v).bare = (d.insertMember index v).bare := by
  refine bare_ext ?_ rfl rfl
  rw [objects_insertMember, objects_insertMember, objects_bare, List.map_map, List.map_map,
    List.map_map]
  -- entering a member looks at indices only, and these are kept
  refine List.map_congr_left fun o _ => ?_
  simp only [Function.comp, Object.index_bare]
  split
  · exact Object.bare_attach o v
  · exact Object.bare_bare o

/-- Dictionaries that are the same when bare still are after the same member is entered. -/
theorem bare_insertMember_congr {d e : Dictionary} (h : d.bare = e.bare) (index : UInt16)
    (v : Variable) : (d.insertMember index v).bare = (e.insertMember index v).bare := by
  rw [← bare_insertMember, h, bare_insertMember]

theorem bare_insert_congr {d e : Dictionary} (h : d.bare = e.bare) (o : Object) :
    (d.insert o).bare = (e.insert o).bare := by
  rw [← bare_insert, h, bare_insert]

theorem bare_insertMembers_congr {d e : Dictionary} (h : d.bare = e.bare) (index : UInt16)
    (vs : List Variable) : (d.insertMembers index vs).bare = (e.insertMembers index vs).bare := by
  induction vs generalizing d e with
  | nil => exact h
  | cons v vs ih => exact ih (bare_insertMember_congr h index v)

end Dictionary

/-! ### Declarations -/

theorem Object.declarations_bare (c : Settings) (o : Object) :
    o.bare.declarations c = o.declarations c := by
  cases o <;> rfl

theorem Object.assembly_bare (c : Settings) (o : Object) : o.bare.assembly c = o.assembly c := by
  cases o <;> rfl

theorem InUse.project_bare (c : Settings) (used : InUse) (o : Object) :
    used.project c o.bare = used.project c o := by
  unfold project
  rw [Object.declarations_bare, Object.index_bare, Object.name_bare]

namespace Dictionary

theorem declarations_bare (d : Dictionary) (c : Settings) :
    d.bare.declarations c = d.declarations c := by
  unfold declarations
  rw [objects_bare, List.flatMap_map]
  exact List.flatMap_congr fun o _ => Object.declarations_bare c o

theorem project_bare (d : Dictionary) (c : Settings) : d.bare.project c = d.project c := by
  unfold project
  rw [objects_bare, List.foldlM_map]
  have hstep : (fun used o => InUse.project c used o.bare) = InUse.project c := by
    funext used o
    exact InUse.project_bare c used o
  rw [hstep]

theorem builder_bare (d : Dictionary) (c : Settings) : d.bare.builder c = d.builder c := by
  have hassembly : d.bare.objects.flatMap (Object.assembly c) =
      d.objects.flatMap (Object.assembly c) := by
    rw [objects_bare, List.flatMap_map]
    exact List.flatMap_congr fun o _ => Object.assembly_bare c o
  unfold builder
  rw [hassembly]

theorem render_bare (d : Dictionary) (c : Settings) : d.bare.render c = d.render c := by
  unfold render
  rw [project_bare, declarations_bare, builder_bare]

/-- **Emitting does not depend on the memory of names.** -/
theorem emit_bare (d : Dictionary) (c : Settings) (s : Sink) : d.bare.emit c s = d.emit c s := by
  have hsize : d.bare.size = d.size := List.length_map Object.bare
  unfold emit
  rw [render_bare, declarations_bare, hsize]

end Dictionary

end DataSheet
