/-
**No two constants share an identifier.**

Before anything is written, the identifiers of the constants are taken into use one after the other.
This succeeds exactly if they are distinct.  Otherwise it stops at the first identifier that is
taken already, and tells the variable that has it.

Main definitions:

* `EarliestClash` — the first constant whose identifier is taken, and the one that has it.

Main results:

* `InUse.foldlM_take_of_clash` — the check of identifiers stops at the earliest clash;
* `Dictionary.outcome_project_eq_ok_iff` — **it succeeds exactly if all identifiers are distinct**.
-/

import DataSheet.Declarations
import DataSheet.Proofs.Report
import Mathlib.Data.List.Induction
import Mathlib.Data.List.Nodup

set_option relaxedAutoImplicit false
set_option autoImplicit false

namespace DataSheet

/-! ### Identifiers taken one after the other -/

/-- The identifiers up to `y` are distinct but for that of `y`, which `x` has already. -/
def EarliestClash (ds : List Declaration) (x y : Declaration) : Prop :=
  ∃ before after, ds = before ++ y :: after ∧ x ∈ before ∧ x.identifier = y.identifier ∧
    (before.map Declaration.identifier).Nodup

/-- Where identifiers are not distinct, there is an earliest clash. -/
theorem exists_earliestClash {ds : List Declaration}
    (h : ¬(ds.map Declaration.identifier).Nodup) : ∃ x y, EarliestClash ds x y := by
  induction ds using List.reverseRecOn with
  | nil => exact absurd List.nodup_nil h
  | append_singleton ds d ih =>
      by_cases hds : (ds.map Declaration.identifier).Nodup
      · -- the last constant is the first whose identifier is taken
        have hmem : d.identifier ∈ ds.map Declaration.identifier := by
          by_contra hnew
          refine h ?_
          rw [List.map_append, List.nodup_append]
          refine ⟨hds, List.nodup_singleton _, fun a ha b hb => ?_⟩
          rw [List.map_singleton, List.mem_singleton] at hb
          rintro rfl
          exact hnew (hb ▸ ha)
        obtain ⟨x, hx, hname⟩ := List.mem_map.1 hmem
        exact ⟨x, d, ds, [], rfl, hx, hname, hds⟩
      · obtain ⟨x, y, before, after, rfl, hx, hname, hbefore⟩ := ih hds
        exact ⟨x, y, before, after ++ [d], by simp, hx, hname, hbefore⟩

/-- Identifiers with a clash are not distinct. -/
theorem EarliestClash.not_nodup {ds : List Declaration} {x y : Declaration}
    (h : EarliestClash ds x y) : ¬(ds.map Declaration.identifier).Nodup := by
  obtain ⟨before, after, rfl, hx, hname, -⟩ := h
  intro hnodup
  rw [List.map_append, List.nodup_append] at hnodup
  exact hnodup.2.2 _ (List.mem_map_of_mem hx) y.identifier (List.mem_map_of_mem
    List.mem_cons_self) hname

namespace InUse

/-- An identifier is taken into use if it is new. -/
theorem take_eq_ok_iff {used used' : InUse} {d : Declaration} :
    used.take d = .ok used' ↔
      d.identifier ∉ used.map Prod.fst ∧ used' = (d.identifier, d.subject.address) :: used := by
  unfold take
  cases h : used.find? (fun u => u.1 = d.identifier) with
  | some u =>
      have hmem : d.identifier ∈ used.map Prod.fst := by
        have hu : u.1 = d.identifier := by simpa using List.find?_some h
        exact hu ▸ List.mem_map_of_mem (List.mem_of_find?_eq_some h)
      simp [hmem]
  | none =>
      have hnew : d.identifier ∉ used.map Prod.fst := by
        intro hmem
        obtain ⟨u, hu, hname⟩ := List.mem_map.1 hmem
        exact List.find?_eq_none.1 h u hu (by simpa using hname)
      simp [hnew, eq_comm]

/-- The identifiers of constants, the latest first. -/
def ofDeclarations (ds : List Declaration) : InUse :=
  (ds.map fun d => (d.identifier, d.subject.address)).reverse

/-- Distinct identifiers are all taken into use. -/
theorem foldlM_take_of_nodup {ds : List Declaration} (h : (ds.map Declaration.identifier).Nodup) :
    ds.foldlM InUse.take [] = .ok (ofDeclarations ds) := by
  induction ds using List.reverseRecOn with
  | nil => rfl
  | append_singleton ds d ih =>
      rw [List.map_append, List.nodup_append] at h
      obtain ⟨hds, -, hnew⟩ := h
      rw [List.foldlM_append, ih hds]
      change (ofDeclarations ds).take d >>= pure = _
      have hfree : d.identifier ∉ (ofDeclarations ds).map Prod.fst := by
        intro hmem
        rw [ofDeclarations, List.map_reverse, List.mem_reverse, List.map_map] at hmem
        exact hnew _ hmem d.identifier (List.mem_singleton_self _) rfl
      rw [take_eq_ok_iff.2 ⟨hfree, rfl⟩]
      simp [ofDeclarations, pure, Except.pure, bind, Except.bind]

/-- An identifier in use is refused, with the address of the variable that has it. -/
theorem take_of_mem {ds : List Declaration} (h : (ds.map Declaration.identifier).Nodup)
    {x y : Declaration} (hx : x ∈ ds) (hname : x.identifier = y.identifier) :
    (ofDeclarations ds).take y =
      .error (.duplicateIdentifier y.identifier x.subject.address y.subject.address) := by
  unfold take
  cases hfind : (ofDeclarations ds).find? (fun u => u.1 = y.identifier) with
  | none =>
      have hentry : (x.identifier, x.subject.address) ∈ ofDeclarations ds :=
        List.mem_reverse.2 (List.mem_map.2 ⟨x, hx, rfl⟩)
      have := List.find?_eq_none.1 hfind _ hentry
      simp [hname] at this
  | some u =>
      -- the constant found has the identifier of `x`, so it is `x`
      obtain ⟨x', hx', rfl⟩ := List.mem_map.1 (List.mem_reverse.1 (List.mem_of_find?_eq_some hfind))
      have hname' : x'.identifier = y.identifier := by simpa using List.find?_some hfind
      rw [List.inj_on_of_nodup_map h hx' hx (hname'.trans hname.symm)]

/-- The check of identifiers stops at the earliest clash. -/
theorem foldlM_take_of_clash {ds : List Declaration} {x y : Declaration}
    (h : EarliestClash ds x y) :
    ds.foldlM InUse.take [] =
      .error (.duplicateIdentifier y.identifier x.subject.address y.subject.address) := by
  obtain ⟨before, after, rfl, hx, hname, hnodup⟩ := h
  rw [List.foldlM_append, foldlM_take_of_nodup hnodup]
  change (ofDeclarations before).take y >>= _ = _
  rw [take_of_mem hnodup hx hname]
  rfl

/-- What is in use is passed on from one object to the next. -/
theorem outcome_foldlM_project (c : Settings) (os : List Object) (used : InUse) :
    (os.foldlM (project c) used).outcome =
      (os.flatMap (Object.declarations c)).foldlM take used := by
  induction os generalizing used with
  | nil => rfl
  | cons o os ih =>
      rw [List.foldlM_cons, Report.outcome_bind, List.flatMap_cons, List.foldlM_append]
      unfold project
      rw [Report.outcome_bind, Report.outcome_ofExcept]
      cases (o.declarations c).foldlM take used with
      | error f => rfl
      | ok used' => exact ih used'

end InUse

/-- The check goes object by object, but takes the constants one after the other. -/
theorem Dictionary.outcome_project (d : Dictionary) (c : Settings) :
    (d.project c).outcome = ((d.declarations c).foldlM InUse.take []).map fun _ => () := by
  unfold project declarations
  rw [Report.outcome_bind, InUse.outcome_foldlM_project]
  cases (d.objects.flatMap (Object.declarations c)).foldlM InUse.take [] <;> rfl

/-- **The check of identifiers succeeds exactly if they are distinct.** -/
theorem Dictionary.outcome_project_eq_ok_iff {d : Dictionary} {c : Settings} :
    (d.project c).outcome = .ok () ↔ ((d.declarations c).map Declaration.identifier).Nodup := by
  rw [outcome_project]
  by_cases hdistinct : ((d.declarations c).map Declaration.identifier).Nodup
  · rw [InUse.foldlM_take_of_nodup hdistinct]
    exact ⟨fun _ => hdistinct, fun _ => rfl⟩
  · obtain ⟨x, y, hclash⟩ := exists_earliestClash hdistinct
    rw [InUse.foldlM_take_of_clash hclash]
    exact ⟨nofun, fun h => absurd h hdistinct⟩

end DataSheet
