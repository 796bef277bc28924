/-
**Dictionaries that are the same but for one group.**

Two data sheets may differ in what they say about one index only.  The dictionaries that are built
from them then go side by side: they hold the same objects elsewhere, and at that index a group
each, of one name.  This module shows that steps about other indices keep them so, and that in the
end they cannot be told apart if the two groups cannot.

Main definitions:

* `Dictionary.Beside` — two dictionaries hold the same objects, but for two groups at one index;
* `Group.Same` — two groups have the same members under the same names;
* `Dictionary.Indistinct` — two dictionaries give the same answers.

Main results:

* `Dictionary.Beside.take`, `Dictionary.Beside.insertMembers_of_ne` — **steps about other indices
  keep dictionaries side by side**;
* `Dictionary.Beside.insertMembers_left` — members may be entered into one of the two groups;
* `Dictionary.Beside.indistinct` — **dictionaries side by side whose groups are the same give the
  same answers**.
-/

import DataSheet.Proofs.Alike
import DataSheet.Proofs.Runs

set_option relaxedAutoImplicit false
set_option autoImplicit false

namespace DataSheet

/-! ### Side by side -/

/-- The objects are the same and stand elsewhere, or they are the two groups. -/
def Object.Beside (g h : Group) (o p : Object) : Prop :=
  o = p ∧ o.index ≠ g.index ∨ o = .group g ∧ p = .group h

/-- The groups stand at one index under one name. -/
structure Group.Paired (g h : Group) : Prop where
  index : g.index = h.index
  name : g.name = h.name

theorem Object.respected_beside {g h : Group} (hgh : g.Paired h) :
    Registry.Respected (Object.Beside g h) := by
  rintro o p (⟨rfl, -⟩ | ⟨rfl, rfl⟩)
  · exact ⟨rfl, rfl⟩
  · exact ⟨hgh.index, hgh.name⟩

namespace Dictionary

/-- The dictionaries hold the same objects in one order, but for two groups. -/
structure Beside (g h : Group) (d e : Dictionary) : Prop where
  registry : Registry.Alike (Object.Beside g h) d.registry e.registry
  bitrate : d.bitrate = e.bitrate
  nodeId : d.nodeId = e.nodeId

variable {g h : Group} {d e : Dictionary}

namespace Beside

theorem symm (hgh : g.Paired h) (hde : Beside g h d e) : Beside h g e d where
  registry := by
    refine ⟨List.Forall₂.flip (hde.registry.items.imp fun o p hop => ?_),
      hde.registry.holders.symm⟩
    rcases hop with ⟨rfl, hne⟩ | ⟨rfl, rfl⟩
    · exact .inl ⟨rfl, hgh.index ▸ hne⟩
    · exact .inr ⟨rfl, rfl⟩
  bitrate := hde.bitrate.symm
  nodeId := hde.nodeId.symm

theorem rel_find? (hgh : g.Paired h) (hde : Beside g h d e) (i : UInt16) :
    Option.Rel (Object.Beside g h) (d.find? i) (e.find? i) :=
  hde.registry.find? (Object.respected_beside hgh) i

/-- Elsewhere the dictionaries hold the same. -/
theorem find?_of_ne (hgh : g.Paired h) (hde : Beside g h d e) {i : UInt16} (hi : i ≠ g.index) :
    d.find? i = e.find? i := by
  have hrel := hde.rel_find? hgh i
  cases hd : d.find? i with
  | none =>
      rw [hd] at hrel
      generalize e.find? i = p at hrel
      cases hrel
      rfl
  | some o =>
      have hindex := index_of_find? hd
      rw [hd] at hrel
      generalize e.find? i = p at hrel
      cases hrel with
      | some hop =>
          rcases hop with ⟨rfl, -⟩ | ⟨rfl, -⟩
          · rfl
          · exact absurd hindex.symm hi

/-- Where the one holds a group at the index, the other does. -/
theorem find?_group (hgh : g.Paired h) (hde : Beside g h d e) {o : Object}
    (ho : d.find? g.index = some o) : o = .group g ∧ e.find? g.index = some (.group h) := by
  have hrel := hde.rel_find? hgh g.index
  have hindex := index_of_find? ho
  rw [ho] at hrel
  generalize e.find? g.index = p at hrel
  cases hrel with
  | some hop =>
      rcases hop with ⟨rfl, hne⟩ | ⟨rfl, rfl⟩
      · exact absurd hindex hne
      · exact ⟨rfl, rfl⟩

theorem insert (hgh : g.Paired h) (hde : Beside g h d e) {o p : Object}
    (hop : Object.Beside g h o p) : Beside g h (d.insert o) (e.insert p) where
  registry := hde.registry.insert (Object.respected_beside hgh) hop
  bitrate := hde.bitrate
  nodeId := hde.nodeId

theorem insertObjects (hgh : g.Paired h) (hde : Beside g h d e) {os : List Object}
    (hos : ∀ o ∈ os, o.index ≠ g.index) :
    Beside g h (d.insertObjects os) (e.insertObjects os) := by
  induction os generalizing d e with
  | nil => exact hde
  | cons o os ih =>
      exact ih (hde.insert hgh (.inl ⟨rfl, hos o List.mem_cons_self⟩))
        fun p hp => hos p (List.mem_cons_of_mem o hp)

/-- A step of the first run that adds objects elsewhere. -/
theorem take (hgh : g.Paired h) (hde : Beside g h d e) {c : Contribution}
    (hc : ∀ o ∈ c.objects, o.index ≠ g.index) : Beside g h (d.take c) (e.take c) where
  registry := (hde.insertObjects hgh hc).registry
  bitrate := congrArg (c.bitrate.or ·) hde.bitrate
  nodeId := (hde.insertObjects hgh hc).nodeId

theorem insertMember_of_ne (hgh : g.Paired h) (hde : Beside g h d e) {i : UInt16}
    (hi : i ≠ g.index) (v : Variable) :
    Beside g h (d.insertMember i v) (e.insertMember i v) := by
  rw [insertMember_eq_modify, insertMember_eq_modify]
  refine ⟨⟨List.rel_map (fun o p hop => ?_) hde.registry.items, hde.registry.holders⟩,
    hde.bitrate, hde.nodeId⟩
  rcases hop with ⟨rfl, hne⟩ | ⟨rfl, rfl⟩
  · refine .inl ⟨rfl, ?_⟩
    split
    · rw [Object.index_attach]
      exact hne
    · exact hne
  · have hg : g.index ≠ i := hi.symm
    have hh : h.index ≠ i := hgh.index ▸ hg
    exact .inr ⟨if_neg hg, if_neg hh⟩

theorem insertMembers_of_ne (hgh : g.Paired h) (hde : Beside g h d e) {i : UInt16}
    (hi : i ≠ g.index) (vs : List Variable) :
    Beside g h (d.insertMembers i vs) (e.insertMembers i vs) := by
  induction vs generalizing d e with
  | nil => exact hde
  | cons v vs ih => exact ih (hde.insertMember_of_ne hgh hi v)

/-- A member is entered into the group on one side. -/
theorem insertMember_left (hde : Beside g h d e) (v : Variable) :
    Beside (g.insert v) h (d.insertMember g.index v) e := by
  rw [insertMember_eq_modify]
  refine ⟨hde.registry.modify_left fun o p hop => ?_, hde.bitrate, hde.nodeId⟩
  rcases hop with ⟨rfl, hne⟩ | ⟨rfl, rfl⟩
  · have hkept : (if Registered.key o = g.index then Object.attach v o else o) = o := if_neg hne
    exact .inl ⟨hkept, hkept.symm ▸ hne⟩
  · exact .inr ⟨if_pos rfl, rfl⟩

theorem insertMembers_left (hde : Beside g h d e) (vs : List Variable) :
    Beside (vs.foldl Group.insert g) h (d.insertMembers g.index vs) e := by
  induction vs generalizing d g with
  | nil => exact hde
  | cons v vs ih => exact ih (g := g.insert v) (hde.insertMember_left v)

end Beside

end Dictionary

/-! ### The same answers -/

/-- The groups have the same members, and the names of members lead to the same ones. -/
structure Group.Same (g h : Group) : Prop where
  kind : g.kind = h.kind
  index : g.index = h.index
  name : g.name = h.name
  description : g.description = h.description
  members : g.members.Same h.members

namespace Group.Same

variable {g h : Group}

theorem refl (g : Group) : g.Same g := ⟨rfl, rfl, rfl, rfl, .refl _⟩

theorem insert (hgh : g.Same h) (v : Variable) : (g.insert v).Same (h.insert v) :=
  ⟨hgh.kind, hgh.index, hgh.name, hgh.description, hgh.members.insert v⟩

theorem foldl_insert (hgh : g.Same h) (vs : List Variable) :
    (vs.foldl Group.insert g).Same (vs.foldl Group.insert h) := by
  induction vs generalizing g h with
  | nil => exact hgh
  | cons v vs ih => exact ih (hgh.insert v)

theorem bare (hgh : g.Same h) : g.bare = h.bare := by
  obtain ⟨kind, index, name, description, members⟩ := g
  obtain ⟨kind', index', name', description', members'⟩ := h
  obtain ⟨rfl, rfl, rfl, rfl, hmembers⟩ := hgh
  unfold Group.bare
  dsimp only at hmembers ⊢
  rw [hmembers.items]

theorem memberNamed (hgh : g.Same h) (n : String) : g.memberNamed n = h.memberNamed n := by
  unfold Group.memberNamed
  rw [hgh.members.findByName?]

end Group.Same

/-- The dictionaries cannot be told apart: they have the same objects with the same members, give
the same answers for every index, subindex and name, and are emitted alike. -/
structure Dictionary.Indistinct (d e : Dictionary) : Prop where
  objects : d.objects.map Object.bare = e.objects.map Object.bare
  bitrate : d.bitrate = e.bitrate
  nodeId : d.nodeId = e.nodeId
  get : ∀ key, (d.get key).map Object.bare = (e.get key).map Object.bare
  element : ∀ index subindex, d.element index subindex = e.element index subindex
  memberNamed : ∀ index g h, d.find? index = some (.group g) → e.find? index = some (.group h) →
    ∀ n, g.memberNamed n = h.memberNamed n
  emitted : ∀ c s, d.emit c s = e.emit c s

namespace Dictionary

/-- What stands at an index and a subindex does not depend on the memory of names. -/
theorem element_bare (d : Dictionary) (index subindex : UInt16) :
    d.bare.element index subindex = d.element index subindex := by
  unfold element
  rw [get_index, get_index, find?_bare]
  cases d.find? index with
  | none => rfl
  | some o => cases o <;> rfl

/-- The object that a key denotes, if there is one. -/
def found? (d : Dictionary) : Key → Option Object
  | .index i => d.find? i
  | .name n => d.registry.findByName? n
  | .member _ _ => none

theorem map_bare_get (d : Dictionary) (key : Key) :
    (d.get key).map Object.bare =
      ((d.found? key).map Object.bare).elim (.error (.notFound key)) .ok := by
  cases key with
  | index i =>
      rw [get_index, found?]
      cases d.find? i <;> rfl
  | name n =>
      unfold get found?
      dsimp only
      cases d.registry.findByName? n <;> rfl
  | member i k => rfl

/-- **Dictionaries side by side whose groups are the same give the same answers.** -/
theorem Beside.indistinct {g h : Group} {d e : Dictionary} (hde : Beside g h d e)
    (hgh : g.Same h) : d.Indistinct e := by
  have hpaired : g.Paired h := ⟨hgh.index, hgh.name⟩
  have hbare : ∀ o p, Object.Beside g h o p → o.bare = p.bare := by
    rintro o p (⟨rfl, -⟩ | ⟨rfl, rfl⟩)
    · rfl
    · exact congrArg Object.group hgh.bare
  have hobjects : d.objects.map Object.bare = e.objects.map Object.bare := by
    have hitems := hde.registry.items
    unfold objects
    generalize d.registry.items = items, e.registry.items = items' at hitems
    induction hitems with
    | nil => rfl
    | cons hop _ ih => rw [List.map_cons, List.map_cons, hbare _ _ hop, ih]
  have hsame : d.bare = e.bare := bare_ext hobjects hde.bitrate hde.nodeId
  have hfind : ∀ i, (d.find? i).map Object.bare = (e.find? i).map Object.bare := by
    intro i
    rw [← find?_bare, ← find?_bare, hsame]
  have hfound : ∀ key, (d.found? key).map Object.bare = (e.found? key).map Object.bare := by
    intro key
    cases key with
    | index i => exact hfind i
    | member i k => rfl
    | name n =>
        unfold found? Registry.findByName?
        dsimp only
        rw [hde.registry.holder?]
        cases e.registry.holder? n with
        | none => rfl
        | some i => exact hfind i
  refine ⟨hobjects, hde.bitrate, hde.nodeId, fun key => ?_, fun index subindex => ?_,
    fun index k l hk hl n => ?_, fun c s => ?_⟩
  · rw [map_bare_get, map_bare_get, hfound]
  · rw [← element_bare, hsame, element_bare]
  · by_cases hi : index = g.index
    · subst hi
      obtain ⟨hk', hl'⟩ := hde.find?_group hpaired hk
      cases hk'
      cases hl.symm.trans hl'
      exact hgh.memberNamed n
    · rw [hde.find?_of_ne hpaired hi, hl] at hk
      cases hk
      rfl
  · rw [← emit_bare, hsame, emit_bare]

end Dictionary

end DataSheet
