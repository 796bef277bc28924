/-
**Which data sheets are accepted.**

A data sheet is refused exactly if one of its sections has a fault, and the fault told is one that a
section has.  Some faults can be seen from a section alone: a name with too large a subindex, an
entry that is no number of the right size, a variable that cannot be read.  Others depend on what
the other sections give: a member or a list of names where there is no object, and a list of names
for a group without a first member.

Main definitions:

* `Section.HeadingFault`, `Sheet.ObjectFault`, `Sheet.MemberFault`, `Sheet.ListFault` — the faults
  of a section by what it is about;
* `Sheet.Untemplated` — sections give a group and no first member of it;
* `Sheet.Faulty` — a section has a fault.

Main results:

* `Sheet.failsFor_object` — reading an object fails exactly for its faults;
* `Dictionary.failsFor_firstPass`, `Dictionary.failsFor_secondPass`,
  `Dictionary.failsFor_thirdPass` — **each step fails exactly for the faults of its section**;
* `Sheet.templated_afterSecond` — the second run leaves a group without a first member exactly where
  the sections give it none;
* `Sheet.failsFor_dictionary` — reading a data sheet fails exactly for its faults;
* `accepted_iff_not_faulty` — **a data sheet is accepted exactly if it has no fault**, and otherwise
  one of its faults is told.
-/

import DataSheet.Proofs.Faults
import DataSheet.Proofs.Provenance

set_option relaxedAutoImplicit false
set_option autoImplicit false

namespace DataSheet

/-! ### The faults of sections -/

/-- An entry is not a count of eight bits, and the fault tells its line. -/
def Section.BadCount (s : Section) (key : String) (how : Malformation) (f : Fault) : Prop :=
  ∃ e, s.entry? key = some e ∧ (¬ ∃ k : UInt8, e.integer? = some (k.toNat : Int)) ∧
    f = .malformed e.line how

/-- The faults of a section's name. -/
def Section.HeadingFault (s : Section) (f : Fault) : Prop :=
  Heading.Oversized s.name.toList ∧ f = .malformed s.line .subindexTooLarge

section Faulty

variable (sheet : Sheet) (node : Option UInt8) (s : Section)

/-- The faults of a section about the device or about an object. -/
inductive Sheet.ObjectFault : Fault → Prop
  /-- The bitrate is not one of 32 bits. -/
  | baudrate {e : Entry} (about : s.About .commissioning) (given : s.entry? "Baudrate" = some e)
      (bad : ¬ ∃ (n : Int) (b : UInt32), e.integer? = some n ∧ 1000 * n = b.toNat) :
      ObjectFault (.malformed e.line .baudrate)
  | kind {i : UInt16} {f : Fault} (about : s.About (.object i)) (bad : s.KindFault f) :
      ObjectFault f
  | compactCount {i : UInt16} {f : Fault} (about : s.About (.object i)) (group : s.IsGroup)
      (bad : s.BadCount "CompactSubObj" .compactCount f) : ObjectFault f
  /-- A plain variable cannot be read. -/
  | plain {i : UInt16} {f : Fault} (about : s.About (.object i)) (plain : s.IsPlain)
      (bad : sheet.VariableFault node s ⟨i, 0⟩ f) : ObjectFault f
  /-- The template of an array in short form cannot be read. -/
  | compact {i : UInt16} {f : Fault} (about : s.About (.object i)) (group : s.IsGroup)
      (short : s.has "CompactSubObj") (bad : sheet.VariableFault node s ⟨i, 1⟩ f) : ObjectFault f

/-- The faults of a section about a member. -/
inductive Sheet.MemberFault : Fault → Prop
  | member {i : UInt16} {k : UInt8} {f : Fault} (about : s.About (.member i k))
      (bad : sheet.VariableFault node s ⟨i, k⟩ f) : MemberFault f
  /-- There is no object at the index. -/
  | orphan {i : UInt16} {k : UInt8} (about : s.About (.member i k))
      (none : ∀ t ∈ sheet.sections, ¬ t.Addresses i) : MemberFault (.notFound (.index i))

/-- The last section of an object describes a group that is not in short form, and no section is
about its first member. -/
def Sheet.Untemplated (i : UInt16) (kind : GroupKind) : Prop :=
  (∃ s, IsLast (fun s => s.Addresses i) sheet.sections s ∧ s.About (.object i) ∧
    s.Code kind.code ∧ ¬ s.has "CompactSubObj") ∧ ∀ t ∈ sheet.sections, ¬ t.About (.member i 1)

/-- The faults of a list of names. -/
inductive Sheet.ListFault : Fault → Prop
  | count {i : UInt16} {f : Fault} (about : s.About (.nameList i))
      (bad : s.BadCount "NrOfEntries" .nameCount f) : ListFault f
  /-- There is no object at the index. -/
  | orphan {i : UInt16} (about : s.About (.nameList i))
      (none : ∀ t ∈ sheet.sections, ¬ t.Addresses i) : ListFault (.notFound (.index i))
  | untemplated {i : UInt16} {kind : GroupKind} (about : s.About (.nameList i))
      (group : sheet.Untemplated i kind) : ListFault (kind.untemplated i)

end Faulty

/-- A section of the data sheet has a fault. -/
def Sheet.Faulty (sheet : Sheet) (node : Option UInt8) (f : Fault) : Prop :=
  ∃ s ∈ sheet.sections, s.HeadingFault f ∨ sheet.ObjectFault node s f ∨
    sheet.MemberFault node s f ∨ sheet.ListFault s f

/-! ### Entries -/

section Entries

variable {sheet : Sheet} {node : Option UInt8} {s : Section}

theorem Entry.failsFor_count (e : Entry) (how : Malformation) :
    FailsFor (fun f => (¬ ∃ k : UInt8, e.integer? = some (k.toNat : Int)) ∧
      f = .malformed e.line how) (e.count how).outcome := by
  unfold count
  cases hk : Literal.count? e.value.toList with
  | none =>
      refine ⟨?_, rfl⟩
      rintro ⟨k, hn⟩
      cases hk.symm.trans (Literal.count?_eq_some_iff.2 hn)
  | some k => exact fun f hf => hf.1 ⟨k, Literal.count?_eq_some_iff.1 hk⟩

theorem Section.failsFor_nameCount :
    FailsFor (s.BadCount "NrOfEntries" .nameCount) s.nameCount := by
  unfold nameCount
  refine FailsFor.of_option (fun he => ?_) fun e he => ?_
  · rw [he]
    exact failsFor_ok 0
  · rw [he]
    exact e.failsFor_count .nameCount

theorem Section.failsFor_countMember {i : UInt16} :
    FailsFor (s.BadCount "CompactSubObj" .compactCount) (s.countMember i).outcome := by
  unfold countMember
  refine FailsFor.of_option (fun he => ?_) fun e he => ?_
  · rw [he]
    exact failsFor_ok _
  · rw [he]
    dsimp only
    rw [Report.outcome_bind]
    exact ((e.failsFor_count .compactCount).bind fun n _ => failsFor_ok _).congr fun f =>
      or_iff_left id

theorem Section.failsFor_baudrate :
    FailsFor (fun f => ∃ e, s.entry? "Baudrate" = some e ∧
      (¬ ∃ (n : Int) (b : UInt32), e.integer? = some n ∧ 1000 * n = b.toNat) ∧
        f = .malformed e.line .baudrate) s.baudrate := by
  refine FailsFor.of_option (fun he => ?_) fun e he => ?_
  · rw [baudrate, he]
    exact failsFor_ok _
  · rcases baudrate_cases he with ⟨n, b, hn, hb, hok⟩ | ⟨hbad, herror⟩
    · rw [hok]
      exact fun f hf => hf.1 ⟨n, b, hn, hb⟩
    · rw [herror]
      exact ⟨hbad, rfl⟩

theorem Section.failsFor_objectKind : FailsFor s.KindFault s.objectKind.outcome := by
  rcases s.objectKind_cases with ⟨hplain, hok⟩ | ⟨kind, hcode, hok⟩ | ⟨f, hf, herror⟩
  · rw [hok]
    exact hplain.not_kindFault
  · rw [hok]
    exact IsGroup.not_kindFault ⟨kind, hcode⟩
  · rw [herror]
    exact hf

/-! ### Objects -/

/-- **Reading an object fails exactly for its faults.** -/
theorem Sheet.failsFor_object {i : UInt16} (about : s.About (.object i)) :
    FailsFor (sheet.ObjectFault node s) (sheet.object s i node).outcome := by
  rw [outcome_object]
  refine (Section.failsFor_objectKind.bind (Q := fun f =>
    (s.IsPlain ∧ sheet.VariableFault node s ⟨i, 0⟩ f) ∨
    (s.IsGroup ∧ s.BadCount "CompactSubObj" .compactCount f) ∨
    (s.IsGroup ∧ s.has "CompactSubObj" ∧ sheet.VariableFault node s ⟨i, 1⟩ f))
    fun kind hkind => ?_).congr fun f => ?_
  · rcases Section.kind_cases hkind with ⟨rfl, hplain⟩ | ⟨hgroup, ⟨rfl, hshort⟩ |
      ⟨k, rfl, -, hshort⟩⟩
    · refine (failsFor_variable.map _).congr fun f => ⟨fun h => .inl ⟨hplain, h⟩, ?_⟩
      rintro (⟨-, h⟩ | ⟨h, -⟩ | ⟨h, -⟩)
      · exact h
      · exact absurd h hplain.not_isGroup
      · exact absurd h hplain.not_isGroup
    · refine (Section.failsFor_countMember.bind fun count _ => failsFor_variable.map _).congr
        fun f => ⟨?_, ?_⟩
      · rintro (h | h)
        · exact .inr (.inl ⟨hgroup, h⟩)
        · exact .inr (.inr ⟨hgroup, hshort, h⟩)
      · rintro (⟨h, -⟩ | ⟨-, h⟩ | ⟨-, -, h⟩)
        · exact absurd hgroup h.not_isGroup
        · exact .inl h
        · exact .inr h
    · rintro f (⟨h, -⟩ | ⟨-, e, he, -⟩ | ⟨-, h, -⟩)
      · exact h.not_isGroup hgroup
      · refine hshort ?_
        rw [Section.has, he]
        rfl
      · exact hshort h
  · constructor
    · rintro (h | ⟨hplain, h⟩ | ⟨hgroup, h⟩ | ⟨hgroup, hshort, h⟩)
      · exact .kind about h
      · exact .plain about hplain h
      · exact .compactCount about hgroup h
      · exact .compact about hgroup hshort h
    · intro h
      cases h with
      | baudrate about' => cases about.unique about'
      | kind _ bad => exact .inl bad
      | compactCount _ group bad => exact .inr (.inr (.inl ⟨group, bad⟩))
      | plain about' plain bad =>
          cases about.unique about'
          exact .inr (.inl ⟨plain, bad⟩)
      | compact about' group short bad =>
          cases about.unique about'
          exact .inr (.inr (.inr ⟨group, short, bad⟩))

/-- Only sections about the device and about objects have faults of this kind. -/
theorem Sheet.ObjectFault.about {f : Fault} (h : sheet.ObjectFault node s f) :
    s.About .commissioning ∨ ∃ i, s.About (.object i) := by
  cases h with
  | baudrate about => exact .inl about
  | kind about | compactCount about | plain about | compact about => exact .inr ⟨_, about⟩

end Entries

/-! ### The steps -/

namespace Dictionary

variable {sheet : Sheet} {node : Option UInt8} {d : Dictionary} {x : Section × Heading}

/-- **A step of the first run fails exactly for the faults of an object.** -/
theorem failsFor_firstPass (hx : Heading.ofName x.1.name = .ok x.2) (hd : d.nodeId = node) :
    FailsFor (sheet.ObjectFault node x.1) (firstPass sheet d x).outcome := by
  obtain ⟨s, heading⟩ := x
  cases heading with
  | commissioning =>
      have about : s.About .commissioning := Section.about_of hx nofun
      change FailsFor _ (d.commission s).outcome
      rw [outcome_commission]
      refine (Section.failsFor_baudrate.map _).congr fun f => ⟨?_, fun h => ?_⟩
      · rintro ⟨e, he, hbad, rfl⟩
        exact .baudrate about he hbad
      · cases h with
        | baudrate _ given bad => exact ⟨_, given, bad, rfl⟩
        | kind about' | compactCount about' | plain about' | compact about' =>
            cases about.unique about'
  | object i =>
      change FailsFor _ (d.addObject sheet s i).outcome
      rw [outcome_addObject, hd]
      exact (Sheet.failsFor_object (Section.about_of hx nofun)).map _
  | dummyUsage =>
      change FailsFor _ (d.addDummies s).outcome
      rw [outcome_addDummies]
      intro f h
      rcases h.about with about | ⟨i, about⟩ <;> cases about.eq hx
  | member i k | nameList i | other =>
      intro f h
      rcases h.about with about | ⟨i, about⟩ <;> cases about.eq hx

/-- There are objects exactly where sections give one. -/
def Furnished (sheet : Sheet) (d : Dictionary) : Prop :=
  ∀ i, d.find? i = none ↔ ∀ t ∈ sheet.sections, ¬ t.Addresses i

/-- Asking for an object fails exactly if no section gives one. -/
theorem Furnished.failsFor_get (h : Furnished sheet d) (i : UInt16) :
    FailsFor (fun f => (∀ t ∈ sheet.sections, ¬ t.Addresses i) ∧ f = .notFound (.index i))
      (d.get (.index i)) := by
  rw [get_index]
  cases ho : d.find? i with
  | none => exact ⟨(h i).1 ho, rfl⟩
  | some o =>
      intro f hf
      cases ho.symm.trans ((h i).2 hf.1)

/-- **A step of the second run fails exactly for the faults of a member.** -/
theorem failsFor_secondPass (hx : Heading.ofName x.1.name = .ok x.2) (hd : d.nodeId = node)
    (h : Furnished sheet d) :
    FailsFor (sheet.MemberFault node x.1) (secondPass sheet d x).outcome := by
  obtain ⟨s, heading⟩ := x
  cases heading with
  | member i k =>
      have about : s.About (.member i k) := Section.about_of hx nofun
      change FailsFor _ (d.addMember sheet s ⟨i, k⟩).outcome
      rw [outcome_addMember, hd]
      refine (Sheet.failsFor_variable.bind fun v _ => (h.failsFor_get i).map _).congr
        fun f => ⟨?_, fun hf => ?_⟩
      · rintro (hf | ⟨hnone, rfl⟩)
        · exact .member about hf
        · exact .orphan about hnone
      · cases hf with
        | member about' bad =>
            cases about.unique about'
            exact .inl bad
        | orphan about' none =>
            cases about.unique about'
            exact .inr ⟨none, rfl⟩
  | commissioning | dummyUsage | object i | nameList i | other =>
      intro f hf
      cases hf with
      | member about => cases about.eq hx
      | orphan about => cases about.eq hx

/-- Groups lack a first member exactly where sections give them none. -/
def Templated (sheet : Sheet) (d : Dictionary) : Prop :=
  ∀ i kind, sheet.Untemplated i kind ↔
    ∃ g, d.find? i = some (.group g) ∧ g.kind = kind ∧ d.member? i 1 = none

/-- Giving names to members of an object fails exactly if that is a group without a first member. -/
theorem Templated.failsFor_named (ht : Templated sheet d) {i : UInt16} {o : Object}
    (ho : d.find? i = some o) (s : Section) (count : UInt8) :
    FailsFor (fun f => ∃ kind : GroupKind, sheet.Untemplated i kind ∧ f = kind.untemplated i)
      (o.named s count) := by
  cases o with
  | plain v =>
      rintro f ⟨kind, huntemplated, -⟩
      obtain ⟨g, hg, -⟩ := (ht i kind).1 huntemplated
      cases ho.symm.trans hg
  | group g =>
      have hmember : d.member? i 1 = g.template? := member?_of_find? ho 1
      unfold Object.named
      dsimp only
      rw [Group.element_template, ← hmember]
      cases hm : d.member? i 1 with
      | none =>
          refine ⟨g.kind, (ht i g.kind).2 ⟨g, ho, rfl, hm⟩, ?_⟩
          rw [show g.index = i from index_of_find? ho]
      | some v =>
          rintro f ⟨kind, huntemplated, -⟩
          obtain ⟨-, -, -, hnone⟩ := (ht i kind).1 huntemplated
          cases hm.symm.trans hnone

/-- **A step of the third run fails exactly for the faults of a list of names.** -/
theorem failsFor_thirdPass (hx : Heading.ofName x.1.name = .ok x.2) (h : Furnished sheet d)
    (ht : Templated sheet d) : FailsFor (sheet.ListFault x.1) (thirdPass d x).outcome := by
  obtain ⟨s, heading⟩ := x
  cases heading with
  | nameList i =>
      have about : s.About (.nameList i) := Section.about_of hx nofun
      change FailsFor _ (d.addNames s i).outcome
      rw [outcome_addNames]
      refine (Section.failsFor_nameCount.bind fun count _ => (h.failsFor_get i).bind fun o ho =>
        (ht.failsFor_named (get_index_eq_ok_iff.1 ho) s count).map _).congr
          fun f => ⟨?_, fun hf => ?_⟩
      · rintro (hf | ⟨hnone, rfl⟩ | ⟨kind, huntemplated, rfl⟩)
        · exact .count about hf
        · exact .orphan about hnone
        · exact .untemplated about huntemplated
      · cases hf with
        | count _ bad => exact .inl bad
        | orphan about' none =>
            cases about.unique about'
            exact .inr (.inl ⟨none, rfl⟩)
        | untemplated about' group =>
            cases about.unique about'
            exact .inr (.inr ⟨_, group, rfl⟩)
  | commissioning | dummyUsage | object i | member i k | other =>
      intro f hf
      cases hf with
      | count about => cases about.eq hx
      | orphan about => cases about.eq hx
      | untemplated about => cases about.eq hx

/-! ### What the runs leave -/

variable {d' : Dictionary}

theorem Furnished.of_sameFrames (h : Furnished sheet d) (hframes : d.SameFrames d') :
    Furnished sheet d' := fun i => (hframes.find?_eq_none_iff i).trans (h i)

/-- Lists of names give no first member to a group without one. -/
theorem Templated.thirdPass (h : Templated sheet d) (hx : Heading.ofName x.1.name = .ok x.2)
    (hd' : (thirdPass d x).outcome = .ok d') : Templated sheet d' := by
  have hframes := sameFrames_thirdPass hd'
  intro i kind
  rw [h i kind]
  have hmember : ∀ {g}, d.find? i = some (.group g) →
      (d'.member? i 1 = none ↔ d.member? i 1 = none) := by
    intro g hg
    rw [← Option.map_eq_none_iff (f := Variable.unnamed), unnamed_thirdPass hx hg hd',
      Option.map_eq_none_iff]
  constructor
  · rintro ⟨g, hg, rfl, hnone⟩
    obtain ⟨g', hg', hkind⟩ := hframes.exists_group hg
    exact ⟨g', hg', hkind, (hmember hg).2 hnone⟩
  · rintro ⟨g', hg', rfl, hnone⟩
    obtain ⟨g, hg, hkind⟩ := hframes.symm.exists_group hg'
    exact ⟨g, hg, hkind, (hmember hg).1 hnone⟩

end Dictionary

section Runs

variable {sheet : Sheet} {node : Option UInt8} {headed : List (Section × Heading)}
  {d d' : Dictionary}

theorem Sheet.furnished_afterFirst (hheaded : sheet.sections.mapM Section.headed = .ok headed)
    (h : (headed.foldlM (Dictionary.firstPass sheet)
      { Dictionary.empty with nodeId := node }).outcome = .ok d) :
    Dictionary.Furnished sheet d := by
  intro i
  rcases find?_afterFirst hheaded h i with ⟨s, hs, o, ho, -⟩ | ⟨hnone, hsame⟩
  · rw [ho]
    exact ⟨nofun, fun hnone => absurd hs.holds (hnone s hs.mem)⟩
  · exact ⟨fun _ => hnone, fun _ => hsame⟩

/-- A section without a short form gives a group of the kind that its code tells. -/
theorem Sheet.Gives.kind_iff {s : Section} {i : UInt16} {o : Object}
    (h : sheet.Gives node s i o) (hshort : ¬ s.has "CompactSubObj") {kind : GroupKind} :
    s.About (.object i) ∧ s.Code kind.code ↔ ∃ g, o = .group g ∧ g.kind = kind := by
  cases h with
  | dummy on =>
      constructor
      · rintro ⟨about, -⟩
        cases about.unique on.1
      · rintro ⟨g, hg, -⟩
        cases hg
  | own about built =>
      rw [outcome_object] at built
      obtain ⟨k, hk, built⟩ := Report.bind_eq_ok_iff.1 built
      rcases Section.kind_cases hk with ⟨rfl, hplain⟩ | ⟨-, ⟨rfl, h⟩ | ⟨k, rfl, hcode, -⟩⟩
      · obtain ⟨v, -, rfl⟩ := Report.map_eq_ok_iff.1 built
        constructor
        · rintro ⟨-, hcode⟩
          exact absurd ⟨kind, hcode⟩ hplain.not_isGroup
        · rintro ⟨g, hg, -⟩
          cases hg
      · exact absurd h hshort
      · cases built
        constructor
        · rintro ⟨-, hcode'⟩
          refine ⟨_, rfl, ?_⟩
          have heq := hcode.unique hcode'
          cases k <;> cases kind <;> first | rfl | cases heq
        · rintro ⟨g, hg, rfl⟩
          cases hg
          exact ⟨about, hcode⟩

/-- After the second run a group lacks a first member exactly where sections give it none. -/
theorem Sheet.templated_afterSecond (hheaded : sheet.sections.mapM Section.headed = .ok headed)
    (h₁ : (headed.foldlM (Dictionary.firstPass sheet)
      { Dictionary.empty with nodeId := node }).outcome = .ok d)
    (h₂ : (headed.foldlM (Dictionary.secondPass sheet) d).outcome = .ok d') :
    Dictionary.Templated sheet d' := by
  have hnode : d.nodeId = node := nodeId_afterFirst h₁
  have hframes : d.SameFrames d' := sameFrames_afterSecond h₂
  intro i kind
  constructor
  · rintro ⟨⟨s, hs, about, code, hshort⟩, hnone⟩
    rcases find?_afterFirst hheaded h₁ i with ⟨s', hs', o, ho, hgives⟩ | ⟨hno, -⟩
    · cases hs.unique hs'
      obtain ⟨g, rfl, rfl⟩ := (hgives.kind_iff hshort).1 ⟨about, code⟩
      obtain ⟨g', hg', hkind⟩ := hframes.exists_group ho
      refine ⟨g', hg', hkind, ?_⟩
      rcases declares_afterSecond hheaded hs ho (hnode ▸ hgives) h₂ 1 with ⟨h | ⟨t, ht, h⟩, -⟩ | h
      · exact absurd h.1 hshort
      · exact absurd h (hnone t ht)
      · exact h.2
    · exact absurd hs.holds (hno s hs.mem)
  · rintro ⟨g', hg', rfl, hmember⟩
    obtain ⟨g, hg, hkind⟩ := hframes.symm.exists_group hg'
    rcases find?_afterFirst hheaded h₁ i with ⟨s, hs, o, ho, hgives⟩ | ⟨-, hno⟩
    · cases hg.symm.trans ho
      rcases declares_afterSecond hheaded hs hg (hnode ▸ hgives) h₂ 1 with ⟨-, v, hv, -⟩ | ⟨hno, -⟩
      · cases hmember.symm.trans hv
      · have hshort : ¬ s.has "CompactSubObj" := fun h => hno (.inl ⟨h, .inr rfl⟩)
        obtain ⟨about, code⟩ := (hgives.kind_iff hshort).2 ⟨g, rfl, hkind⟩
        exact ⟨⟨s, hs, about, code, hshort⟩, fun t ht h => hno (.inr ⟨t, ht, h⟩)⟩
    · cases hg.symm.trans hno

/-! ### The whole data sheet -/

theorem Sheet.failsFor_headings :
    FailsFor (fun f => ∃ s ∈ sheet.sections, s.HeadingFault f)
      (sheet.sections.mapM Section.headed) := by
  refine FailsFor.mapM fun s _ => ?_
  unfold Section.headed
  cases hs : Heading.ofName s.name with
  | ok h =>
      rintro f ⟨hoversized, -⟩
      cases hs.symm.trans (Heading.ofName_eq_error_iff.2 ⟨rfl, hoversized⟩)
  | error how =>
      obtain ⟨rfl, hoversized⟩ := Heading.ofName_eq_error_iff.1 hs
      exact ⟨hoversized, rfl⟩

/-- A run over sections fails for the faults of its sections. -/
theorem Section.failsFor_foldlM {I : Dictionary → Prop} {P : Section → Fault → Prop}
    {step : Dictionary → Section × Heading → Step Dictionary}
    (hheaded : sheet.sections.mapM Section.headed = .ok headed)
    (fails : ∀ x d, Heading.ofName x.1.name = .ok x.2 → I d → FailsFor (P x.1) (step d x).outcome)
    (keep : ∀ x d d', Heading.ofName x.1.name = .ok x.2 → I d → (step d x).outcome = .ok d' → I d')
    (hd : I d) :
    FailsFor (fun f => ∃ s ∈ sheet.sections, P s f) (headed.foldlM step d).outcome := by
  obtain ⟨hsections, habout⟩ := Section.headings_eq hheaded
  rw [← hsections]
  refine (DataSheet.failsFor_foldlM (fun x hx d => fails x d (habout x hx))
    (fun x hx d d' => keep x d d' (habout x hx)) hd).congr fun f => ?_
  simp only [List.mem_map, Prod.exists, exists_and_right, exists_eq_right]

/-- **Reading a data sheet fails exactly for its faults.** -/
theorem Sheet.failsFor_dictionary :
    FailsFor (sheet.Faulty node) (sheet.dictionary node).outcome := by
  unfold dictionary
  simp only [Report.outcome_bind, Report.outcome_ofExcept]
  refine (failsFor_headings.bind fun headed hheaded =>
    FailsFor.bind (P := fun f => ∃ s ∈ sheet.sections, sheet.ObjectFault node s f) ?_
      fun d₁ h₁ => FailsFor.bind (P := fun f => ∃ s ∈ sheet.sections, sheet.MemberFault node s f)
        (Q := fun f => ∃ s ∈ sheet.sections, sheet.ListFault s f) ?_ fun d₂ h₂ => ?_).congr
    fun f => ?_
  · exact Section.failsFor_foldlM (I := fun d => d.nodeId = node) hheaded
      (fun x d hx hd => Dictionary.failsFor_firstPass hx hd)
      (fun x d d' _ hd h => (Dictionary.nodeId_firstPass h).trans hd) rfl
  · have hnode : d₁.nodeId = node := nodeId_afterFirst h₁
    exact Section.failsFor_foldlM
      (I := fun d => d.nodeId = node ∧ Dictionary.Furnished sheet d) hheaded
      (fun x d hx hd => Dictionary.failsFor_secondPass hx hd.1 hd.2)
      (fun x d d' _ hd h => ⟨(Dictionary.nodeId_secondPass h).trans hd.1,
        hd.2.of_sameFrames (Dictionary.sameFrames_secondPass h)⟩)
      ⟨hnode, furnished_afterFirst hheaded h₁⟩
  · have hfurnished : Dictionary.Furnished sheet d₂ :=
      (furnished_afterFirst hheaded h₁).of_sameFrames (sameFrames_afterSecond h₂)
    exact Section.failsFor_foldlM
      (I := fun d => Dictionary.Furnished sheet d ∧ Dictionary.Templated sheet d) hheaded
      (fun x d hx hd => Dictionary.failsFor_thirdPass hx hd.1 hd.2)
      (fun x d d' hx hd h => ⟨hd.1.of_sameFrames (Dictionary.sameFrames_thirdPass h),
        hd.2.thirdPass hx h⟩)
      ⟨hfurnished, templated_afterSecond hheaded h₁ h₂⟩
  · simp only [Faulty, and_or_left, exists_or]

end Runs

/-! ### Texts -/

/-- A text that is a data sheet gives what the data sheet gives. -/
theorem Dictionary.outcome_ofText {text : String} {sheet : Sheet}
    (hsheet : (Sheet.ofText text).outcome = .ok sheet) (node : Option UInt8) :
    (ofText text node).outcome = (sheet.dictionary node).outcome := by
  unfold ofText
  rw [Report.outcome_bind, hsheet]
  change (sheet.dictionary node >>= _).outcome = _
  rw [Report.outcome_bind]
  cases (sheet.dictionary node).outcome <;> rfl

/-- **A data sheet is accepted exactly if it has no fault**, and otherwise one of its faults is
told. -/
theorem accepted_iff_not_faulty {text : String} {sheet : Sheet}
    (hsheet : (Sheet.ofText text).outcome = .ok sheet) (node : Option UInt8) :
    ((∃ d, (Dictionary.ofText text node).outcome = .ok d) ↔ ∀ f, ¬ sheet.Faulty node f) ∧
      ∀ f, (Dictionary.ofText text node).outcome = .error f → sheet.Faulty node f := by
  have h : FailsFor (sheet.Faulty node) (Dictionary.ofText text node).outcome := by
    rw [Dictionary.outcome_ofText hsheet]
    exact Sheet.failsFor_dictionary
  generalize (Dictionary.ofText text node).outcome = r at h
  cases r with
  | ok d => exact ⟨⟨fun _ => h, fun _ => ⟨d, rfl⟩⟩, nofun⟩
  | error e =>
      constructor
      · constructor
        · rintro ⟨d, hd⟩
          cases hd
        · exact fun hnone => absurd h (hnone e)
      · rintro f ⟨⟩
        exact h

/-- A data sheet with an array that a member and a list of names belong to, and some more lines. -/
def listed (lines : List String) : String :=
  String.intercalate "\n" (["[2000]", "ObjectType=9", "[2000sub2]", "DataType=5", "[2000Name]",
    "NrOfEntries=1", "1=First"] ++ lines)

/-- Without a first member the list of names is at fault, and with one there is no fault. -/
theorem accepted_iff_not_faulty_listed :
    (∃ sheet, (Sheet.ofText (listed [])).outcome = .ok sheet ∧
      sheet.Faulty none (.badElement 0x2000 1 .noTemplate)) ∧
    ∃ sheet, (Sheet.ofText (listed ["[2000sub1]", "DataType=5"])).outcome = .ok sheet ∧
      ∀ f, ¬ sheet.Faulty none f := by
  constructor
  · obtain ⟨sheet, hsheet⟩ := Report.exists_of_isSome (r := (Sheet.ofText (listed [])).outcome)
      (by decide +kernel)
    refine ⟨sheet, hsheet, (accepted_iff_not_faulty hsheet none).2 _ ?_⟩
    decide +kernel
  · obtain ⟨sheet, hsheet⟩ := Report.exists_of_isSome
      (r := (Sheet.ofText (listed ["[2000sub1]", "DataType=5"])).outcome) (by decide +kernel)
    exact ⟨sheet, hsheet,
      (accepted_iff_not_faulty hsheet none).1.1 (Report.exists_of_isSome (by decide +kernel))⟩

end DataSheet
