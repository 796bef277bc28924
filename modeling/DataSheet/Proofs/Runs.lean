/-
**What the runs over a data sheet leave.**

Several sections of a data sheet may have a say in one thing, under names spelled differently, and
then the last of them counts.  This module says, for the object at an index, for the bitrate and for
a member of a group, which sections have a say in it, what the step of such a section makes of it,
and what a whole run leaves.

Main definitions:

* `IsLast` — the last item of a list with a property;
* `Section.About`, `Section.Addresses`, `Section.Lists`, `Section.Commissions` — what a section has
  a say in;
* `Sheet.Gives` — the object that a section gives before members are added to it;
* `Dictionary.SameFrames` — two dictionaries differ in the members of groups only.

Main results:

* `Report.foldlM_last` — **a run leaves what its last step to touch a thing made of it**;
* `Dictionary.find?_firstPass`, `Dictionary.member?_secondPass`, `Dictionary.member?_thirdPass` —
  what a step makes of the object at an index, or of a member of a group;
* `Sheet.find?_afterFirst`, `Sheet.bitrate_afterFirst`, `Sheet.member?_afterSecond`,
  `Sheet.member?_afterThird` — **what whole runs make of them**.
-/

import DataSheet.Proofs.Commute
import DataSheet.Proofs.Described
import DataSheet.Proofs.Headings

set_option relaxedAutoImplicit false
set_option autoImplicit false

namespace DataSheet

/-! ### The last of several -/

section Last

variable {α β γ ν ε : Type} {p : α → Prop} {l : List α} {a b : α}

/-- The last item of a list with a property. -/
def IsLast (p : α → Prop) (l : List α) (a : α) : Prop :=
  ∃ before after, l = before ++ a :: after ∧ p a ∧ ∀ b ∈ after, ¬ p b

theorem IsLast.mem (h : IsLast p l a) : a ∈ l := by
  obtain ⟨before, after, rfl, -, -⟩ := h
  exact List.mem_append_right before List.mem_cons_self

theorem IsLast.holds (h : IsLast p l a) : p a := by
  obtain ⟨-, -, -, ha, -⟩ := h
  exact ha

theorem IsLast.cons (h : IsLast p l a) (b : α) : IsLast p (b :: l) a := by
  obtain ⟨before, after, rfl, ha, hafter⟩ := h
  exact ⟨b :: before, after, rfl, ha, hafter⟩

theorem IsLast.map {f : β → α} {l : List β} {b : β} (h : IsLast (fun b => p (f b)) l b) :
    IsLast p (l.map f) (f b) := by
  obtain ⟨before, after, rfl, hb, hafter⟩ := h
  refine ⟨before.map f, after.map f, by rw [List.map_append, List.map_cons], hb, ?_⟩
  intro a ha
  obtain ⟨c, hc, rfl⟩ := List.mem_map.1 ha
  exact hafter c hc

/-- There is only one last item: another one would stand before it or behind it. -/
theorem IsLast.unique (ha : IsLast p l a) (hb : IsLast p l b) : a = b := by
  obtain ⟨before, after, rfl, hpa, hafter⟩ := ha
  obtain ⟨before', after', h, hpb, hafter'⟩ := hb
  rcases List.append_eq_append_iff.1 h with ⟨between, -, h⟩ | ⟨between, -, h⟩
  · cases between with
    | nil => exact (List.cons.inj h).1
    | cons c between =>
        have hmem : b ∈ after := by
          rw [(List.cons.inj h).2]
          exact List.mem_append_right between List.mem_cons_self
        exact absurd hpb (hafter b hmem)
  · cases between with
    | nil => exact (List.cons.inj h).1.symm
    | cons c between =>
        have hmem : a ∈ after' := by
          rw [(List.cons.inj h).2]
          exact List.mem_append_right between List.mem_cons_self
        exact absurd hpa (hafter' a hmem)

/-- **A run leaves what its last step to touch a thing made of it.**  Here `F` is the thing, a
step for an item with `p` makes of it something with `V`, and all others leave it as it is. -/
theorem Report.foldlM_last {P : β → Prop} {V : α → γ → Prop} {F : β → γ}
    {f : β → α → Report ν ε β}
    (step : ∀ a ∈ l, ∀ b b', P b → (f b a).outcome = .ok b' →
      P b' ∧ (p a ∧ V a (F b') ∨ ¬ p a ∧ F b' = F b)) :
    ∀ {b b'}, P b → (l.foldlM f b).outcome = .ok b' →
      P b' ∧ ((∃ a, IsLast p l a ∧ V a (F b')) ∨ (∀ a ∈ l, ¬ p a) ∧ F b' = F b) := by
  induction l with
  | nil =>
      intro b b' hb h
      cases h
      refine ⟨hb, .inr ⟨fun a ha => ?_, rfl⟩⟩
      cases ha
  | cons a l ih =>
      intro b b' hb h
      rw [List.foldlM_cons, outcome_bind_eq_ok_iff] at h
      obtain ⟨c, hc, h⟩ := h
      obtain ⟨hPc, hstep⟩ := step a List.mem_cons_self b c hb hc
      obtain ⟨hPb', hrest⟩ := ih (fun x hx => step x (List.mem_cons_of_mem a hx)) hPc h
      refine ⟨hPb', ?_⟩
      rcases hrest with ⟨x, hx, hV⟩ | ⟨hnone, hsame⟩
      · exact .inl ⟨x, hx.cons a, hV⟩
      rw [hsame]
      rcases hstep with ⟨hpa, hV⟩ | ⟨hpa, hsame'⟩
      · exact .inl ⟨a, ⟨[], l, rfl, hpa, hnone⟩, hV⟩
      · refine .inr ⟨fun x hx => ?_, hsame'⟩
        rcases List.mem_cons.1 hx with rfl | hx
        · exact hpa
        · exact hnone x hx

end Last

/-! ### What sections have a say in -/

/-- The name of the section spells a heading. -/
def Section.About (s : Section) (h : Heading) : Prop := Heading.Spelled s.name.toList h

theorem Section.about_of {s : Section} {h : Heading} (hs : Heading.ofName s.name = .ok h)
    (hh : h ≠ .other) : s.About h :=
  (Heading.ofName_eq_ok_iff hh).1 hs

/-- A section is about one heading only. -/
theorem Section.About.eq {s : Section} {h h' : Heading} (ha : s.About h)
    (hs : Heading.ofName s.name = .ok h') : h' = h :=
  Except.ok.inj (hs.symm.trans ((Heading.ofName_eq_ok_iff ha.ne_other).2 ha))

theorem Section.About.unique {s : Section} {h h' : Heading} (ha : s.About h) (hb : s.About h') :
    h = h' :=
  hb.eq ((Heading.ofName_eq_ok_iff ha.ne_other).2 ha)

/-- The section turns on the dummy object at an index. -/
def Section.TurnsOn (s : Section) (i : UInt16) : Prop :=
  s.About .dummyUsage ∧ 1 ≤ i.toNat ∧ i.toNat ≤ 7 ∧
    ∃ e, s.entry? (Dictionary.dummyKey i.toNat) = some e ∧ e.integer? = some 1

/-- The section gives an object at an index. -/
def Section.Addresses (s : Section) (i : UInt16) : Prop := s.About (.object i) ∨ s.TurnsOn i

/-- The section lists a name for a member. -/
def Section.Lists (s : Section) (i : UInt16) (k : UInt8) : Prop :=
  s.About (.nameList i) ∧ ∃ count name, s.nameCount = .ok count ∧ 1 ≤ k.toNat ∧
    k.toNat ≤ count.toNat ∧ s.value? (Text.decimal 1 k.toNat) = some name

/-- The section sets the bitrate. -/
def Section.Commissions (s : Section) : Prop := s.About .commissioning ∧ s.has "Baudrate"

/-- The section gives a bitrate, in thousands. -/
def Section.Rates (s : Section) (b : UInt32) : Prop :=
  ∃ e n, s.entry? "Baudrate" = some e ∧ e.integer? = some n ∧ (b.toNat : Int) = 1000 * n

/-- The object without its members. -/
def Object.frame : Object → Object
  | plain v => plain v
  | group g => group { g with members := .empty }

/-- The stored member at an index and a subindex. -/
def Dictionary.member? (d : Dictionary) (i : UInt16) (k : UInt8) : Option Variable :=
  match d.find? i with
  | some (.group g) => g.member? k
  | _ => none

/-- The object that a section gives at an index, before members are added to it. -/
inductive Sheet.Gives (sheet : Sheet) (node : Option UInt8) (s : Section) (i : UInt16) :
    Object → Prop
  | own {o : Object} (about : s.About (.object i))
      (built : (sheet.object s i node).outcome = .ok o) : Gives sheet node s i o
  | dummy (on : s.TurnsOn i) : Gives sheet node s i (.plain (Dictionary.dummy i.toNat))

/-! ### Entering several items -/

open Registered (key) in
/-- After several items are entered, the last one with a key is found, or what was there before. -/
theorem Registry.find?_foldl_insert {κ α : Type} [DecidableEq κ] [Registered κ α] [LT κ]
    [DecidableLT κ] (r : Registry κ α) (as : List α) (k : κ) :
    (∃ a ∈ as, key a = k ∧ (as.foldl insert r).find? k = some a) ∨
      (∀ a ∈ as, key a ≠ k) ∧ (as.foldl insert r).find? k = r.find? k := by
  induction as generalizing r with
  | nil =>
      refine .inr ⟨fun a ha => ?_, rfl⟩
      cases ha
  | cons a as ih =>
      rw [List.foldl_cons]
      rcases ih (r.insert a) with ⟨b, hb, hk, hfind⟩ | ⟨hnone, hfind⟩
      · exact .inl ⟨b, List.mem_cons_of_mem a hb, hk, hfind⟩
      rw [hfind, find?_insert]
      by_cases hk : key a = k
      · exact .inl ⟨a, List.mem_cons_self, hk, if_pos hk⟩
      · refine .inr ⟨fun b hb => ?_, if_neg hk⟩
        rcases List.mem_cons.1 hb with rfl | hb
        · exact hk
        · exact hnone b hb

theorem Dictionary.registry_insertObjects (d : Dictionary) (os : List Object) :
    (d.insertObjects os).registry = os.foldl Registry.insert d.registry :=
  (List.foldl_hom Dictionary.registry fun _ _ => rfl).symm

theorem Group.members_foldl_insert (g : Group) (vs : List Variable) :
    (vs.foldl Group.insert g).members = vs.foldl Registry.insert g.members :=
  (List.foldl_hom Group.members fun _ _ => rfl).symm

/-! ### The first run -/

namespace Dictionary

theorem mem_dummies_iff {s : Section} {i : Nat} :
    i ∈ dummies s ↔ 1 ≤ i ∧ i ≤ 7 ∧
      ∃ e, s.entry? (dummyKey i) = some e ∧ e.integer? = some 1 := by
  have hrange : i ∈ [1, 2, 3, 4, 5, 6, 7] ↔ 1 ≤ i ∧ i ≤ 7 := by
    simp only [List.mem_cons, List.not_mem_nil, or_false]
    omega
  unfold dummies
  rw [List.mem_filter, hrange, decide_eq_true_eq, Option.bind_eq_some_iff, and_assoc]

variable {sheet : Sheet} {d d' : Dictionary} {x : Section × Heading}

/-- What a step of the first run adds. -/
theorem exists_contribution (h : (firstPass sheet d x).outcome = .ok d') :
    ∃ c, sheet.contribution d.nodeId x = some c ∧ d' = d.take c := by
  rw [← Report.result?_eq_some_iff, result?_firstPass] at h
  obtain ⟨c, hc, h⟩ := Option.map_eq_some_iff.1 h
  exact ⟨c, hc, h.symm⟩

end Dictionary

section Contributions

variable {sheet : Sheet} {node : Option UInt8} {x : Section × Heading} {c : Contribution}

/-- What a section adds in the first run, it gives. -/
theorem Sheet.gives_of_contribution (hx : Heading.ofName x.1.name = .ok x.2)
    (h : sheet.contribution node x = some c) {o : Object} (ho : o ∈ c.objects) :
    x.1.Addresses o.index ∧ sheet.Gives node x.1 o.index o := by
  obtain ⟨s, heading⟩ := x
  cases heading with
  | dummyUsage =>
      cases h
      obtain ⟨i, hi, rfl⟩ := List.mem_map.1 ho
      have hindex := Dictionary.index_dummy hi
      have hon : s.TurnsOn (Dictionary.dummy i).index := by
        refine ⟨Section.about_of hx nofun, ?_⟩
        rw [hindex]
        exact Dictionary.mem_dummies_iff.1 hi
      refine ⟨.inr hon, ?_⟩
      have hgives : sheet.Gives node s _ _ := .dummy hon
      rw [hindex] at hgives
      exact hgives
  | object i =>
      obtain ⟨p, hp, rfl⟩ := Option.map_eq_some_iff.1 h
      cases List.mem_singleton.1 ho
      have hp := Report.result?_eq_some_iff.1 hp
      rw [index_object hp]
      have habout := Section.about_of hx nofun
      exact ⟨.inl habout, .own habout hp⟩
  | commissioning =>
      obtain ⟨b, -, rfl⟩ := Option.map_eq_some_iff.1 h
      cases ho
  | member i k | nameList i | other =>
      cases h
      cases ho

/-- Where a section gives an object, it adds one in the first run. -/
theorem Sheet.exists_mem_contribution (hx : Heading.ofName x.1.name = .ok x.2)
    (h : sheet.contribution node x = some c) {i : UInt16} (hi : x.1.Addresses i) :
    ∃ o ∈ c.objects, o.index = i := by
  obtain ⟨s, heading⟩ := x
  rcases hi with hi | ⟨hi, hon⟩
  · cases hi.eq hx
    obtain ⟨p, hp, rfl⟩ := Option.map_eq_some_iff.1 h
    exact ⟨p, List.mem_singleton_self p, index_object (Report.result?_eq_some_iff.1 hp)⟩
  · cases hi.eq hx
    cases h
    have hmem := Dictionary.mem_dummies_iff.2 hon
    refine ⟨_, List.mem_map_of_mem hmem, ?_⟩
    exact UInt16.toNat.inj (Dictionary.index_dummy hmem)

/-- A section adds a bitrate exactly if it sets one. -/
theorem Sheet.bitrate_contribution (hx : Heading.ofName x.1.name = .ok x.2)
    (h : sheet.contribution node x = some c) :
    x.1.Commissions ∧ (∃ b, c.bitrate = some b ∧ x.1.Rates b) ∨
      ¬ x.1.Commissions ∧ c.bitrate = none := by
  obtain ⟨s, heading⟩ := x
  by_cases hc : heading = .commissioning
  · subst hc
    obtain ⟨b, hb, rfl⟩ := Option.map_eq_some_iff.1 h
    have hb := Report.toOption_eq_some_iff.1 hb
    cases he : s.entry? "Baudrate" with
    | none =>
        rw [Section.baudrate, he] at hb
        cases hb
        refine .inr ⟨fun hs => ?_, rfl⟩
        have hhas := hs.2
        rw [Section.has, he] at hhas
        cases hhas
    | some e =>
        rcases Section.baudrate_cases he with ⟨n, r, hn, hr, hok⟩ | ⟨-, herror⟩
        · cases hb.symm.trans hok
          have hhas : s.has "Baudrate" := by
            rw [Section.has, he]
            rfl
          exact .inl ⟨⟨Section.about_of hx nofun, hhas⟩, r, rfl, e, n, he, hn, hr.symm⟩
        · cases hb.symm.trans herror
  · refine .inr ⟨fun hs => hc (hs.1.eq hx), ?_⟩
    by_contra hb
    exact hc (bitrate_of_contribution h hb)

end Contributions

namespace Dictionary

variable {sheet : Sheet} {d d' : Dictionary} {x : Section × Heading}

/-- What a step of the first run makes of the object at an index. -/
theorem find?_firstPass (hx : Heading.ofName x.1.name = .ok x.2)
    (h : (firstPass sheet d x).outcome = .ok d') (i : UInt16) :
    x.1.Addresses i ∧ (∃ o, d'.find? i = some o ∧ sheet.Gives d.nodeId x.1 i o) ∨
      ¬ x.1.Addresses i ∧ d'.find? i = d.find? i := by
  obtain ⟨c, hc, rfl⟩ := exists_contribution h
  have hfind : (d.take c).find? i = (c.objects.foldl Registry.insert d.registry).find? i := by
    rw [← registry_insertObjects]
    rfl
  rw [hfind]
  rcases Registry.find?_foldl_insert d.registry c.objects i with ⟨o, ho, rfl, ho'⟩ | ⟨hnone, hsame⟩
  · obtain ⟨haddresses, hgives⟩ := Sheet.gives_of_contribution hx hc ho
    exact .inl ⟨haddresses, o, ho', hgives⟩
  · refine .inr ⟨fun hi => ?_, hsame⟩
    obtain ⟨o, ho, hoi⟩ := Sheet.exists_mem_contribution hx hc hi
    exact hnone o ho hoi

theorem bitrate_firstPass (hx : Heading.ofName x.1.name = .ok x.2)
    (h : (firstPass sheet d x).outcome = .ok d') :
    x.1.Commissions ∧ (∃ b, d'.bitrate = some b ∧ x.1.Rates b) ∨
      ¬ x.1.Commissions ∧ d'.bitrate = d.bitrate := by
  obtain ⟨c, hc, rfl⟩ := exists_contribution h
  rcases Sheet.bitrate_contribution hx hc with ⟨hs, b, hb, hrates⟩ | ⟨hs, hb⟩
  · refine .inl ⟨hs, b, ?_, hrates⟩
    rw [take, hb, Option.some_or]
  · refine .inr ⟨hs, ?_⟩
    rw [take, hb, Option.none_or]

end Dictionary

/-! ### Members -/

@[simp] theorem Object.frame_attach (o : Object) (v : Variable) :
    (o.attach v).frame = o.frame := by
  cases o <;> rfl

namespace Dictionary

variable {sheet : Sheet} {d d' : Dictionary} {x : Section × Heading} {i : UInt16} {g : Group}

/-- Entering members leaves the frames of all objects. -/
theorem frame_insertMembers (d : Dictionary) (j : UInt16) (vs : List Variable) (i : UInt16) :
    ((d.insertMembers j vs).find? i).map Object.frame = (d.find? i).map Object.frame := by
  induction vs generalizing d with
  | nil => rfl
  | cons v vs ih =>
      change ((Dictionary.insertMembers (d.insertMember j v) j vs).find? i).map _ = _
      rw [ih, find?_insertMember, Option.map_map]
      refine congrArg (Option.map · (d.find? i)) (funext fun o => ?_)
      dsimp only [Function.comp]
      split
      · exact o.frame_attach v
      · rfl

theorem bitrate_insertMembers (d : Dictionary) (j : UInt16) (vs : List Variable) :
    (d.insertMembers j vs).bitrate = d.bitrate := by
  induction vs generalizing d with
  | nil => rfl
  | cons v vs ih => exact ih (d.insertMember j v)

/-- What the two later runs leave: the frames of all objects, the bitrate and the node. -/
structure SameFrames (d e : Dictionary) : Prop where
  frames : ∀ i, (e.find? i).map Object.frame = (d.find? i).map Object.frame
  bitrate : e.bitrate = d.bitrate
  nodeId : e.nodeId = d.nodeId

theorem SameFrames.refl (d : Dictionary) : d.SameFrames d := ⟨fun _ => rfl, rfl, rfl⟩

theorem SameFrames.symm {e : Dictionary} (h : d.SameFrames e) : e.SameFrames d :=
  ⟨fun i => (h.frames i).symm, h.bitrate.symm, h.nodeId.symm⟩

theorem SameFrames.trans {e f : Dictionary} (h : d.SameFrames e) (h' : e.SameFrames f) :
    d.SameFrames f :=
  ⟨fun i => (h'.frames i).trans (h.frames i), h'.bitrate.trans h.bitrate,
    h'.nodeId.trans h.nodeId⟩

theorem SameFrames.insertMembers {e : Dictionary} (h : d.SameFrames e) (j : UInt16)
    (vs : List Variable) : d.SameFrames (e.insertMembers j vs) :=
  h.trans ⟨frame_insertMembers e j vs, bitrate_insertMembers e j vs, nodeId_insertMembers e j vs⟩

theorem sameFrames_secondPass (h : (secondPass sheet d x).outcome = .ok d') : d.SameFrames d' :=
  secondPass_keeps (P := d.SameFrames) (fun _ _ a _ _ he _ _ => he.insertMembers a.index _)
    (.refl d) h

theorem sameFrames_thirdPass (h : (thirdPass d x).outcome = .ok d') : d.SameFrames d' :=
  thirdPass_keeps (P := d.SameFrames) (fun _ _ j _ _ vs he _ _ => he.insertMembers j vs) (.refl d) h

/-- Where a group stands, a group of the same kind still stands. -/
theorem SameFrames.exists_group {e : Dictionary} (h : d.SameFrames e)
    (hg : d.find? i = some (.group g)) : ∃ g', e.find? i = some (.group g') ∧ g'.kind = g.kind := by
  have hframe := h.frames i
  rw [hg] at hframe
  obtain ⟨o, ho, hof⟩ := Option.map_eq_some_iff.1 hframe
  cases o with
  | plain v => cases hof
  | group g' =>
      injection hof with hof
      have hkind := congrArg Group.kind hof
      exact ⟨g', ho, hkind⟩

theorem SameFrames.find?_eq_none_iff {e : Dictionary} (h : d.SameFrames e) (i : UInt16) :
    e.find? i = none ↔ d.find? i = none := by
  rw [← Option.map_eq_none_iff (f := Object.frame), h.frames i, Option.map_eq_none_iff]

theorem member?_of_find? (h : d.find? i = some (.group g)) (k : UInt8) :
    d.member? i k = g.member? k := by
  rw [member?, h]

/-- Where a group stands, members are entered in their order. -/
theorem find?_insertMembers_group (h : d.find? i = some (.group g)) (vs : List Variable) :
    (d.insertMembers i vs).find? i = some (.group (vs.foldl Group.insert g)) := by
  induction vs generalizing d g with
  | nil => exact h
  | cons v vs ih => exact ih (find?_insertMember_group h v)

/-- After members are entered into a group, the last one with a subindex is found, or what was there
before. -/
theorem member?_insertMembers (h : d.find? i = some (.group g)) (vs : List Variable) (k : UInt8) :
    (∃ v ∈ vs, v.subindex = k ∧ (d.insertMembers i vs).member? i k = some v) ∨
      (∀ v ∈ vs, v.subindex ≠ k) ∧ (d.insertMembers i vs).member? i k = d.member? i k := by
  rw [member?_of_find? (find?_insertMembers_group h vs), member?_of_find? h, Group.member?,
    Group.members_foldl_insert]
  exact Registry.find?_foldl_insert g.members vs k

/-- Members entered at another index are not found. -/
theorem member?_insertMembers_of_ne {j : UInt16} (hij : j ≠ i) (vs : List Variable) (k : UInt8) :
    (d.insertMembers j vs).member? i k = d.member? i k := by
  rw [member?, find?_insertMembers_of_ne d hij]
  rfl

/-- What a step of the second run makes of a member of a group. -/
theorem member?_secondPass (hx : Heading.ofName x.1.name = .ok x.2)
    (hg : d.find? i = some (.group g))
    (h : (secondPass sheet d x).outcome = .ok d') (k : UInt8) :
    x.1.About (.member i k) ∧
        (∃ v, d'.member? i k = some v ∧ (sheet.variable x.1 ⟨i, k⟩ d.nodeId).outcome = .ok v) ∨
      ¬ x.1.About (.member i k) ∧ d'.member? i k = d.member? i k := by
  obtain ⟨s, heading⟩ := x
  cases heading with
  | member j l =>
      obtain ⟨v, o, hv, ho, rfl⟩ := addMember_eq_ok_iff.1 h
      dsimp only at ho ⊢
      by_cases hij : j = i
      · subst hij
        cases hg.symm.trans ho
        have hsubindex : v.subindex = l := (Sheet.typed_variable hv).subindex
        rcases member?_insertMembers hg [v] k with ⟨w, hw, hk, hfound⟩ | ⟨hne, hsame⟩
        · cases List.mem_singleton.1 hw
          rw [hsubindex] at hk
          subst hk
          exact .inl ⟨Section.about_of hx nofun, v, hfound, hv⟩
        · refine .inr ⟨fun hs => ?_, hsame⟩
          cases hs.eq hx
          exact hne v (List.mem_singleton_self v) hsubindex
      · refine .inr ⟨fun hs => ?_, member?_insertMembers_of_ne hij (o.only v) k⟩
        cases hs.eq hx
        exact hij rfl
  | commissioning | dummyUsage | object j | nameList j | other =>
      cases h
      refine .inr ⟨fun hs => ?_, rfl⟩
      cases hs.eq hx

/-! ### Lists of names -/

theorem mem_listedNames {s : Section} {count k : UInt8} {name : String} :
    (k, name) ∈ listedNames s count ↔
      1 ≤ k.toNat ∧ k.toNat ≤ count.toNat ∧ s.value? (Text.decimal 1 k.toNat) = some name := by
  unfold listedNames
  simp only [List.mem_filterMap, List.mem_range, Option.map_eq_some_iff, Prod.mk.injEq]
  have hcount := count.toNat_lt
  constructor
  · rintro ⟨j, hj, name', hname, rfl, rfl⟩
    have hsize : j + 1 < UInt8.size := by
      change j + 1 < 256
      omega
    rw [UInt8.toNat_ofNat_of_lt' hsize]
    exact ⟨by omega, by omega, hname⟩
  · rintro ⟨hone, hle, hname⟩
    have hk : k.toNat - 1 + 1 = k.toNat := by omega
    refine ⟨k.toNat - 1, by omega, name, ?_, ?_, rfl⟩
    · rw [hk]
      exact hname
    · rw [hk]
      exact UInt8.ofNat_toNat

/-- A section lists a name for a member exactly if its list has one. -/
theorem lists_iff {s : Section} {count : UInt8} (hs : s.About (.nameList i))
    (hcount : s.nameCount = .ok count) {k : UInt8} :
    s.Lists i k ↔ ∃ name, (k, name) ∈ listedNames s count := by
  constructor
  · rintro ⟨-, count', name, hcount', hk⟩
    cases hcount.symm.trans hcount'
    exact ⟨name, mem_listedNames.2 hk⟩
  · rintro ⟨name, hname⟩
    exact ⟨hs, count, name, hcount, mem_listedNames.1 hname⟩

/-- What a step of the third run makes of a member of a group. -/
theorem member?_thirdPass (hx : Heading.ofName x.1.name = .ok x.2)
    (hg : d.find? i = some (.group g))
    (h : (thirdPass d x).outcome = .ok d') (k : UInt8) :
    x.1.Lists i k ∧ (∃ template name, d.member? i 1 = some template ∧
        x.1.value? (Text.decimal 1 k.toNat) = some name ∧
        d'.member? i k = some (namedMember template k name)) ∨
      ¬ x.1.Lists i k ∧ d'.member? i k = d.member? i k := by
  obtain ⟨s, heading⟩ := x
  cases heading with
  | nameList j =>
      obtain ⟨count, o, vs, hcount, ho, hvs, rfl⟩ := addNames_eq_ok_iff.1 h
      by_cases hij : j = i
      · subst hij
        cases hg.symm.trans ho
        obtain ⟨e, he, rfl⟩ := Report.map_eq_ok_iff.1 hvs
        rw [Group.element_template] at he
        cases ht : g.template? with
        | none =>
            rw [ht] at he
            cases he
        | some template =>
            rw [ht] at he
            cases he
            have htemplate : d.member? j 1 = some template := (member?_of_find? hg 1).trans ht
            have hlists := lists_iff (k := k) (Section.about_of hx nofun) hcount
            rcases member?_insertMembers hg ((listedNames s count).map fun listed =>
              namedMember template listed.1 listed.2) k with ⟨v, hv, hk, hfound⟩ | ⟨hne, hsame⟩
            · obtain ⟨⟨l, name⟩, hmem, rfl⟩ := List.mem_map.1 hv
              cases hk
              exact .inl ⟨hlists.2 ⟨name, hmem⟩, template, name, htemplate,
                (mem_listedNames.1 hmem).2.2, hfound⟩
            · refine .inr ⟨fun hs => ?_, hsame⟩
              obtain ⟨name, hname⟩ := hlists.1 hs
              exact hne _ (List.mem_map_of_mem hname) rfl
      · refine .inr ⟨fun hs => ?_, member?_insertMembers_of_ne hij vs k⟩
        cases hs.1.eq hx
        exact hij rfl
  | commissioning | dummyUsage | object j | member j l | other =>
      cases h
      refine .inr ⟨fun hs => ?_, rfl⟩
      cases hs.1.eq hx

end Dictionary

/-- The variable without its name. -/
def Variable.unnamed (v : Variable) : Variable := { v with name := "" }

/-- A list of names may rename the first member of a group, but not change it otherwise. -/
theorem Dictionary.unnamed_thirdPass {d d' : Dictionary} {x : Section × Heading} {i : UInt16}
    {g : Group} (hx : Heading.ofName x.1.name = .ok x.2) (hg : d.find? i = some (.group g))
    (h : (thirdPass d x).outcome = .ok d') :
    (d'.member? i 1).map Variable.unnamed = (d.member? i 1).map Variable.unnamed := by
  rcases member?_thirdPass hx hg h 1 with ⟨-, template, name, ht, -, hfound⟩ | ⟨-, hsame⟩
  · have hsubindex : template.subindex = 1 := by
      rw [member?_of_find? hg] at ht
      exact (Registry.mem_of_find? ht).2
    rw [ht, hfound, ← hsubindex]
    rfl
  · rw [hsame]

/-! ### Whole runs -/

/-- Sections with their headings are the sections, each with what it is about. -/
theorem Section.headings_eq {sections : List Section} {headed : List (Section × Heading)}
    (h : sections.mapM Section.headed = .ok headed) :
    headed.map Prod.fst = sections ∧ ∀ x ∈ headed, Heading.ofName x.1.name = .ok x.2 := by
  have hheaded : ∀ {s : Section} {x}, s.headed = .ok x →
      x.1 = s ∧ Heading.ofName x.1.name = .ok x.2 := by
    intro s x hx
    unfold Section.headed at hx
    split at hx
    next heading hh =>
      cases hx
      exact ⟨rfl, hh⟩
    next => cases hx
  constructor
  · rw [Report.map_eq_of_mapM h (p := id) (q := Prod.fst) fun s x hx => (hheaded hx).1]
    exact List.map_id sections
  · intro x hx
    have hmem : (.ok x : Except Fault (Section × Heading)) ∈ sections.map Section.headed := by
      rw [Report.mapM_eq_ok_iff.1 h]
      exact List.mem_map_of_mem hx
    obtain ⟨s, -, hs⟩ := List.mem_map.1 hmem
    exact (hheaded hs).2

/-- A run over sections leaves what the last section to touch a thing made of it. -/
theorem Section.foldlM_last {γ : Type} {P : Dictionary → Prop} {p : Section → Prop}
    {V : Section → γ → Prop} {F : Dictionary → γ}
    {f : Dictionary → Section × Heading → Step Dictionary} {sections : List Section}
    {headed : List (Section × Heading)} (hheaded : sections.mapM Section.headed = .ok headed)
    (step : ∀ x d d', Heading.ofName x.1.name = .ok x.2 → P d → (f d x).outcome = .ok d' →
      P d' ∧ (p x.1 ∧ V x.1 (F d') ∨ ¬ p x.1 ∧ F d' = F d))
    {d d' : Dictionary} (hd : P d) (h : (headed.foldlM f d).outcome = .ok d') :
    P d' ∧ ((∃ s, IsLast p sections s ∧ V s (F d')) ∨ (∀ s ∈ sections, ¬ p s) ∧ F d' = F d) := by
  obtain ⟨rfl, habout⟩ := headings_eq hheaded
  obtain ⟨hd', hrun⟩ := Report.foldlM_last (p := fun x : Section × Heading => p x.1)
    (V := fun x => V x.1) (fun x hx d d' => step x d d' (habout x hx)) hd h
  refine ⟨hd', ?_⟩
  rcases hrun with ⟨x, hx, hV⟩ | ⟨hnone, hsame⟩
  · exact .inl ⟨x.1, hx.map, hV⟩
  · refine .inr ⟨fun s hs => ?_, hsame⟩
    obtain ⟨x, hx, rfl⟩ := List.mem_map.1 hs
    exact hnone x hx

section Runs

variable {sheet : Sheet} {node : Option UInt8} {headed : List (Section × Heading)}
  {d d' : Dictionary} {i : UInt16} {g : Group}

theorem Sheet.nodeId_afterFirst
    (h : (headed.foldlM (Dictionary.firstPass sheet) d).outcome = .ok d') :
    d'.nodeId = d.nodeId :=
  Report.foldlM_keeps (P := fun e => e.nodeId = d.nodeId)
    (fun _ _ _ _ he h => (Dictionary.nodeId_firstPass h).trans he) rfl h

theorem Sheet.sameFrames_afterSecond
    (h : (headed.foldlM (Dictionary.secondPass sheet) d).outcome = .ok d') : d.SameFrames d' :=
  Report.foldlM_keeps (fun _ _ _ _ he h => he.trans (Dictionary.sameFrames_secondPass h))
    (.refl d) h

theorem Sheet.sameFrames_afterThird
    (h : (headed.foldlM Dictionary.thirdPass d).outcome = .ok d') : d.SameFrames d' :=
  Report.foldlM_keeps (fun _ _ _ _ he h => he.trans (Dictionary.sameFrames_thirdPass h))
    (.refl d) h

/-- What the first run leaves at an index. -/
theorem Sheet.find?_afterFirst (hheaded : sheet.sections.mapM Section.headed = .ok headed)
    (h : (headed.foldlM (Dictionary.firstPass sheet) d).outcome = .ok d') (i : UInt16) :
    (∃ s, IsLast (fun s => s.Addresses i) sheet.sections s ∧
        ∃ o, d'.find? i = some o ∧ sheet.Gives d.nodeId s i o) ∨
      (∀ s ∈ sheet.sections, ¬ s.Addresses i) ∧ d'.find? i = d.find? i := by
  refine (Section.foldlM_last (P := fun e => e.nodeId = d.nodeId)
    (V := fun s found => ∃ o, found = some o ∧ sheet.Gives d.nodeId s i o)
    (F := fun e : Dictionary => e.find? i) hheaded ?_ rfl h).2
  intro x e e' hx he h
  have hstep := Dictionary.find?_firstPass hx h i
  rw [he] at hstep
  exact ⟨(Dictionary.nodeId_firstPass h).trans he, hstep⟩

/-- What the first run leaves of the bitrate. -/
theorem Sheet.bitrate_afterFirst (hheaded : sheet.sections.mapM Section.headed = .ok headed)
    (h : (headed.foldlM (Dictionary.firstPass sheet) d).outcome = .ok d') :
    (∃ s, IsLast Section.Commissions sheet.sections s ∧ ∃ b, d'.bitrate = some b ∧ s.Rates b) ∨
      (∀ s ∈ sheet.sections, ¬ s.Commissions) ∧ d'.bitrate = d.bitrate := by
  refine (Section.foldlM_last (P := fun _ => True)
    (V := fun s found => ∃ b, found = some b ∧ s.Rates b)
    (F := Dictionary.bitrate) hheaded ?_ trivial h).2
  intro x e e' hx _ h
  exact ⟨trivial, Dictionary.bitrate_firstPass hx h⟩

/-- What the second run leaves of a member of a group. -/
theorem Sheet.member?_afterSecond (hheaded : sheet.sections.mapM Section.headed = .ok headed)
    (hg : d.find? i = some (.group g))
    (h : (headed.foldlM (Dictionary.secondPass sheet) d).outcome = .ok d') (k : UInt8) :
    (∃ t, IsLast (fun t => t.About (.member i k)) sheet.sections t ∧
        ∃ v, d'.member? i k = some v ∧ (sheet.variable t ⟨i, k⟩ d.nodeId).outcome = .ok v) ∨
      (∀ t ∈ sheet.sections, ¬ t.About (.member i k)) ∧ d'.member? i k = d.member? i k := by
  refine (Section.foldlM_last (P := d.SameFrames)
    (V := fun t found => ∃ v, found = some v ∧ (sheet.variable t ⟨i, k⟩ d.nodeId).outcome = .ok v)
    (F := fun e : Dictionary => e.member? i k) hheaded ?_ (.refl d) h).2
  intro x e e' hx he h
  obtain ⟨g', hg', -⟩ := he.exists_group hg
  have hstep := Dictionary.member?_secondPass hx hg' h k
  rw [he.nodeId] at hstep
  exact ⟨he.trans (Dictionary.sameFrames_secondPass h), hstep⟩

/-- What the third run leaves of a member of a group. -/
theorem Sheet.member?_afterThird (hheaded : sheet.sections.mapM Section.headed = .ok headed)
    (hg : d.find? i = some (.group g))
    (h : (headed.foldlM Dictionary.thirdPass d).outcome = .ok d') (k : UInt8) :
    (∃ t, IsLast (fun t => t.Lists i k) sheet.sections t ∧ ∃ template name,
        d.member? i 1 = some template ∧ t.value? (Text.decimal 1 k.toNat) = some name ∧
        d'.member? i k = some (Dictionary.namedMember template k name)) ∨
      (∀ t ∈ sheet.sections, ¬ t.Lists i k) ∧ d'.member? i k = d.member? i k := by
  refine (Section.foldlM_last (P := fun e => d.SameFrames e ∧
      (e.member? i 1).map Variable.unnamed = (d.member? i 1).map Variable.unnamed)
    (V := fun t found => ∃ template name, d.member? i 1 = some template ∧
      t.value? (Text.decimal 1 k.toNat) = some name ∧
      found = some (Dictionary.namedMember template k name))
    (F := fun e : Dictionary => e.member? i k) hheaded ?_ ⟨.refl d, rfl⟩ h).2
  rintro x e e' hx ⟨he, htemplate⟩ h
  obtain ⟨g', hg', -⟩ := he.exists_group hg
  refine ⟨⟨he.trans (Dictionary.sameFrames_thirdPass h), ?_⟩, ?_⟩
  · exact (Dictionary.unnamed_thirdPass hx hg' h).trans htemplate
  · rcases Dictionary.member?_thirdPass hx hg' h k with ⟨hlists, t, name, ht, hname, hfound⟩ | hsame
    · rw [ht] at htemplate
      obtain ⟨t', ht', hsame⟩ := Option.map_eq_some_iff.1 htemplate.symm
      refine .inl ⟨hlists, t', name, ht', hname, ?_⟩
      have hnamed : Dictionary.namedMember t'.unnamed k name =
          Dictionary.namedMember t.unnamed k name := by rw [hsame]
      rw [hfound]
      exact congrArg some hnamed.symm
    · exact .inr hsame

end Runs

end DataSheet
