/-
**Data sheets up to the places of their lines.**

Where a line of a data sheet stands is kept for faults only.  This module erases the places of lines
and shows that reading gives the same without them, and that two data sheets with the same sections,
in any order and with their entries in any order, have the same sections then.

Main definitions:

* `Sheet.Proper` — the names of sections and the keys of entries are distinct, as reading ensures;
* `Sheet.unlined` — the data sheet without the places of its lines;
* `Sheet.Rearranged` — the same sections in another order, with their entries in another order.

Main results:

* `Sheet.proper_ofText` — a text is a proper data sheet;
* `Sheet.Rearranged.perm` — rearranged data sheets have the same sections without places;
* `Sheet.result?_dictionary_unlined` — **a data sheet gives the same dictionary without places**.
-/

import DataSheet.Proofs.Restated
import Mathlib.Data.List.Nodup
import Mathlib.Data.List.Perm.Basic

set_option relaxedAutoImplicit false
set_option autoImplicit false

namespace DataSheet

/-! ### Proper data sheets -/

/-- The keys of the entries ascend, and each is the spelling in lower case. -/
structure Section.Proper (s : Section) : Prop where
  ascends : s.entries.Pairwise fun e e' => e.key < e'.key
  folded : ∀ e ∈ s.entries, e.key = foldKey e.spelling

/-- The names of the sections are distinct, and each section is proper. -/
structure Sheet.Proper (sheet : Sheet) : Prop where
  distinct : (sheet.sections.map Section.name).Nodup
  sections : ∀ s ∈ sheet.sections, s.Proper

theorem Section.Proper.insert {s : Section} (h : s.Proper) (spelling value : String) (n : Nat) :
    (s.insert (Entry.ofLine spelling value n)).Proper where
  ascends := Ascending.pairwise_insert _ _ _ h.ascends
  folded := by
    intro e he
    rcases Ascending.eq_or_mem_of_mem_insert _ _ _ _ he with rfl | he
    · rfl
    · exact h.folded e he

namespace Sheet

theorem Draft.proper_add {d d' : Draft} {n : Nat} {l : Line} (hd : (Sheet.mk d.sections).Proper)
    (h : d.add n l = .ok d') : (Sheet.mk d'.sections).Proper := by
  cases l with
  | skipped =>
      cases h
      exact hd
  | bad how => cases h
  | header name =>
      unfold add at h
      dsimp only at h
      split at h
      · cases h
      next hnew =>
        cases h
        refine ⟨List.nodup_cons.2 ⟨fun hmem => hnew ?_, hd.distinct⟩, fun s hs => ?_⟩
        · obtain ⟨s, hs, hname⟩ := List.mem_map.1 hmem
          exact List.any_eq_true.2 ⟨s, hs, by simpa using hname⟩
        · rcases List.mem_cons.1 hs with rfl | hs
          · exact ⟨List.Pairwise.nil, fun e he => by cases he⟩
          · exact hd.sections s hs
  | entry key value =>
      obtain ⟨sections⟩ := d
      cases sections with
      | nil => cases h
      | cons s earlier =>
          unfold add at h
          dsimp only at h
          split at h
          · cases h
          · cases h
            refine ⟨hd.distinct, fun t ht => ?_⟩
            rcases List.mem_cons.1 ht with rfl | ht
            · exact (hd.sections s List.mem_cons_self).insert key value n
            · exact hd.sections t (List.mem_cons_of_mem s ht)

theorem proper_scan {d : Draft} (hd : (Sheet.mk d.sections).Proper) (n : Nat)
    (ls : List (List Char)) : (Sheet.mk (scan d n ls).1.sections).Proper := by
  induction ls generalizing d n with
  | nil => exact hd
  | cons l ls ih =>
      unfold scan
      cases hadd : d.add n (Line.ofText l) with
      | error how => exact hd
      | ok d' => exact ih (Draft.proper_add hd hadd) (n + 1)

/-- A text is a proper data sheet. -/
theorem proper_ofText {text : String} {sheet : Sheet} (h : (ofText text).outcome = .ok sheet) :
    sheet.Proper := by
  have hempty : (Sheet.mk (Draft.mk []).sections).Proper :=
    ⟨List.nodup_nil, fun s hs => by cases hs⟩
  have hscan := proper_scan hempty 1 (lines text)
  unfold ofText at h
  dsimp only at h
  split at h
  · cases h
  · split at h
    · cases h
    · cases h
      refine ⟨?_, fun s hs => hscan.sections s (List.mem_reverse.1 hs)⟩
      rw [Draft.sheet, List.map_reverse, List.nodup_reverse]
      exact hscan.distinct

end Sheet

/-! ### Places erased -/

/-- The entry without the place of its line. -/
def Entry.unlined (e : Entry) : Entry := { e with line := 0 }

/-- The section without the places of its lines. -/
def Section.unlined (s : Section) : Section :=
  { s with line := 0, entries := s.entries.map Entry.unlined }

/-- The data sheet without the places of its lines. -/
def Sheet.unlined (sheet : Sheet) : Sheet := ⟨sheet.sections.map Section.unlined⟩

/-- What an entry says. -/
def Entry.content (e : Entry) : String × String := (e.spelling, e.value)

/-- The same entries in another order. -/
def Section.Rearranged (s t : Section) : Prop :=
  s.name = t.name ∧ (s.entries.map Entry.content).Perm (t.entries.map Entry.content)

/-- The same sections in another order, with their entries in another order. -/
def Sheet.Rearranged (S T : Sheet) : Prop :=
  ∃ sections, S.sections.Perm sections ∧ List.Forall₂ Section.Rearranged sections T.sections

theorem Section.Proper.entries_unlined {s : Section} (h : s.Proper) :
    s.entries.map Entry.unlined =
      (s.entries.map Entry.content).map fun x => Entry.ofLine x.1 x.2 0 := by
  rw [List.map_map]
  refine List.map_congr_left fun e he => ?_
  simp only [Entry.unlined, Entry.content, Entry.ofLine, Function.comp, ← h.folded e he]

/-- Rearranged sections are the same without places. -/
theorem Section.Rearranged.unlined_eq {s t : Section} (h : s.Rearranged t) (hs : s.Proper)
    (ht : t.Proper) : s.unlined = t.unlined := by
  have hascends : ∀ {u : Section}, u.Proper →
      (u.entries.map Entry.unlined).Pairwise fun e e' => e.key < e'.key := fun hu =>
    List.pairwise_map.2 hu.ascends
  -- the keys of the entries ascend in both, so what is rearranged is the same list
  have hentries : s.entries.map Entry.unlined = t.entries.map Entry.unlined := by
    refine List.Perm.eq_of_pairwise ?_ (hascends hs) (hascends ht) ?_
    · intro e e' _ _ hlt hgt
      exact absurd hgt (Std.not_gt_of_lt hlt)
    · rw [hs.entries_unlined, ht.entries_unlined]
      exact h.2.map _
  unfold Section.unlined
  rw [hentries, h.1]

/-- Rearranged data sheets have the same sections without places. -/
theorem Sheet.Rearranged.perm {S T : Sheet} (h : S.Rearranged T) (hS : S.Proper)
    (hT : T.Proper) : S.unlined.sections.Perm T.unlined.sections := by
  obtain ⟨sections, hperm, hall⟩ := h
  have hproper : ∀ s ∈ sections, s.Proper := fun s hs => hS.sections s (hperm.mem_iff.2 hs)
  have hsame : sections.map Section.unlined = T.sections.map Section.unlined := by
    have hT := hT.sections
    clear hperm
    generalize T.sections = sections' at hall hT
    induction hall with
    | nil => rfl
    | cons hst _ ih =>
        rw [List.map_cons, List.map_cons,
          hst.unlined_eq (hproper _ List.mem_cons_self) (hT _ List.mem_cons_self),
          ih (fun s hs => hproper s (List.mem_cons_of_mem _ hs))
            (fun s hs => hT s (List.mem_cons_of_mem _ hs))]
  exact (hperm.map Section.unlined).trans (.of_eq hsame)

/-! ### Reading without places -/

theorem Section.restates_unlined (s : Section) : s.Restates s.unlined where
  name := rfl
  entries := List.forall₂_map_right_iff.2
    (List.forall₂_same.2 fun _ _ => ⟨rfl, rfl, rfl, fun _ => rfl⟩)

theorem Sheet.restates_unlined (sheet : Sheet) : sheet.Restates sheet.unlined :=
  List.forall₂_map_right_iff.2 (List.forall₂_same.2 fun s _ => s.restates_unlined)

/-- Lists that a function makes equal are related wherever it does not tell items apart. -/
theorem forall₂_of_map_eq {α β : Type} {f : α → β} {R : α → α → Prop}
    (hR : ∀ a b, f a = f b → R a b) {l l' : List α} (h : l.map f = l'.map f) :
    List.Forall₂ R l l' := by
  have hsame : List.Forall₂ (fun x y => x = y) (l.map f) (l'.map f) := by
    rw [h]
    exact List.forall₂_same.2 fun _ _ => rfl
  exact (List.forall₂_map_left_iff.1 (List.forall₂_map_right_iff.1 hsame)).imp hR

theorem Entry.restates_of_unlined {e e' : Entry} (h : e.unlined = e'.unlined) :
    e.Restates e' := by
  obtain ⟨key, spelling, value, line⟩ := e
  obtain ⟨key', spelling', value', line'⟩ := e'
  simp only [Entry.unlined, Entry.mk.injEq] at h
  obtain ⟨rfl, rfl, rfl, -⟩ := h
  exact ⟨rfl, rfl, rfl, fun _ => rfl⟩

theorem Section.restates_of_unlined {s t : Section} (h : s.unlined = t.unlined) :
    s.Restates t := by
  obtain ⟨name, line, entries⟩ := s
  obtain ⟨name', line', entries'⟩ := t
  simp only [Section.unlined, Section.mk.injEq, true_and] at h
  obtain ⟨rfl, hentries⟩ := h
  exact ⟨rfl, forall₂_of_map_eq (fun _ _ => Entry.restates_of_unlined) hentries⟩

/-- Data sheets that differ in places only say the same. -/
theorem Sheet.restates_of_unlined {S T : Sheet} (h : S.unlined = T.unlined) : S.Restates T :=
  forall₂_of_map_eq (fun _ _ => Section.restates_of_unlined) (congrArg Sheet.sections h)

/-- A data sheet gives the same dictionary without places. -/
theorem Sheet.result?_dictionary_unlined (sheet : Sheet) (node : Option UInt8) :
    (sheet.unlined.dictionary node).result? = (sheet.dictionary node).result? :=
  sheet.restates_unlined.result?_dictionary node

end DataSheet
