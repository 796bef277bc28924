/-
**Names in dictionaries that are read.**

Reading enters objects and members and changes groups in place.  All of this keeps registries sound,
that of a dictionary and those of its groups, so that each name with a single carrier leads to it.

Main definitions:

* `Dictionary.Sound` — the registries of a dictionary and of its groups are sound.

Main results:

* `Dictionary.Sound.insert`, `Dictionary.Sound.insertMembers` — soundness is kept;
* `Dictionary.sound_ofSheet` — **a data sheet describes a sound dictionary**;
* `Registry.Sound.answer_eq` — a look-up by name, where at most one item carries it.
-/

import DataSheet.Proofs.Names

set_option relaxedAutoImplicit false
set_option autoImplicit false

namespace DataSheet

open Registered (key name)

/-! ### Names with at most one carrier -/

namespace Registry

variable {κ α : Type} [DecidableEq κ] [Registered κ α] [LT κ]

/-- Where at most one item carries a name, a look-up by that name is a search among the items. -/
theorem Sound.answer_eq {r : Registry κ α} (h : r.Sound) {n : String}
    (hone : ∀ a ∈ r.items, ∀ b ∈ r.items, name a = n → name b = n → a = b) :
    r.answer n =
      match r.items.find? fun a => name a = n with
      | some a => .ok a
      | none => .error (.notFound (.name n)) := by
  unfold answer
  cases ha : r.items.find? (fun a => name a = n) with
  | none =>
      rw [h.findByName?_eq_none]
      intro b hb hbn
      exact List.find?_eq_none.1 ha b hb (by simpa using hbn)
  | some a =>
      have hmem := List.mem_of_find?_eq_some ha
      have han : name a = n := by simpa using List.find?_some ha
      rw [h.findByName?_eq hmem han]
      intro b hb hbn
      exact hone b hb a hmem hbn han

end Registry

/-! ### Dictionaries -/

/-- The registry of members is sound. -/
def Object.Sound : Object → Prop
  | plain _ => True
  | group g => g.members.Sound

theorem Object.Sound.attach {o : Object} (h : o.Sound) (v : Variable) : (o.attach v).Sound := by
  cases o with
  | plain w => trivial
  | group g => exact Registry.Sound.insert h v

theorem Sheet.sound_object {sheet : Sheet} {s : Section} {index : UInt16} {node : Option UInt8}
    {o : Object} (h : (sheet.object s index node).outcome = .ok o) : o.Sound := by
  rcases object_cases h with ⟨v, -, rfl⟩ | ⟨name, count, template, -, -, rfl⟩ |
    ⟨kind, name, description, rfl⟩
  · trivial
  · exact (Registry.sound_empty.insert count).insert template
  · exact Registry.sound_empty

namespace Dictionary

/-- The registry of objects is sound, and so are those of all groups. -/
structure Sound (d : Dictionary) : Prop where
  registry : d.registry.Sound
  objects : ∀ o ∈ d.objects, o.Sound

theorem Sound.insert {d : Dictionary} (h : d.Sound) {o : Object} (ho : o.Sound) :
    (d.insert o).Sound where
  registry := h.registry.insert o
  objects := by
    intro p hp
    rcases Ascending.eq_or_mem_of_mem_insert _ _ _ _ hp with rfl | hp
    · exact ho
    · exact h.objects p hp

theorem Sound.insertMember {d : Dictionary} (h : d.Sound) (index : UInt16) (v : Variable) :
    (d.insertMember index v).Sound := by
  rw [insertMember_eq_modify]
  refine ⟨h.registry.modify (Object.keeps_attach v), fun p hp => ?_⟩
  obtain ⟨o, ho, rfl⟩ := Registry.mem_items_modify.1 hp
  split
  · exact (h.objects o ho).attach v
  · exact h.objects o ho

theorem Sound.insertMembers {d : Dictionary} (h : d.Sound) (index : UInt16) (vs : List Variable) :
    (d.insertMembers index vs).Sound := by
  induction vs generalizing d with
  | nil => exact h
  | cons v vs ih => exact ih (h.insertMember index v)

/-- **A data sheet describes a sound dictionary.** -/
theorem sound_ofSheet {sheet : Sheet} {node : Option UInt8} {d : Dictionary}
    (h : (sheet.dictionary node).outcome = .ok d) : d.Sound := by
  refine Sheet.dictionary_keeps ?_ ?_ ?_ ?_ ?_ ?_ h
  · refine ⟨Registry.sound_empty, fun o ho => ?_⟩
    cases ho
  · intro d b hd
    exact ⟨hd.registry, hd.objects⟩
  · intro d i hd
    exact hd.insert trivial
  · intro d s i o hd ho
    exact hd.insert (Sheet.sound_object ho)
  · intro d s a v o hd _ _
    exact hd.insertMembers a.index _
  · intro d s i count o vs hd _ _
    exact hd.insertMembers i vs

end Dictionary

end DataSheet
