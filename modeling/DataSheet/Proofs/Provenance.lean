/-
**Where everything in a dictionary comes from.**

Objects come from sections of their own or are dummies, members come from sections of their own,
from arrays in short form, or from lists of names, and nothing comes from anywhere else.  Where
several sections are about one thing, the last of them counts.

Main definitions:

* `Sheet.Compacts` — the members that an array in short form starts with;
* `Sheet.Declares`, `Sheet.Stores` — the member that sections give before lists of names are read,
  and that there is one;
* `Provenance` — the account of a whole dictionary.

Main results:

* `Sheet.Gives.member?` — what a group starts with;
* `Sheet.declares_afterSecond` — after the second run a group has the members that sections declare;
* `Sheet.find?_dictionary`, `Sheet.member?_dictionary`, `Sheet.bitrate_dictionary` — what all runs
  leave of an object, of a member and of the bitrate;
* `provenance_ofText` — **a text accounts for all of its dictionary**.
-/

import DataSheet.Proofs.Runs

set_option relaxedAutoImplicit false
set_option autoImplicit false

namespace DataSheet

/-! ### The account -/

section Accounts

variable (sheet : Sheet) (node : Option UInt8)

/-- The member that a compact array gives in its own section: the count of its elements, or their
template. -/
inductive Sheet.Compacts (s : Section) (i : UInt16) : UInt8 → Variable → Prop
  | count {v : Variable} (built : (s.countMember i).outcome = .ok v) : Compacts s i 0 v
  | template {v : Variable} (built : (sheet.variable s ⟨i, 1⟩ node).outcome = .ok v) :
      Compacts s i 1 v

/-- The member that sections give before lists of names are read: the last section of the member
counts, and where there is none, the section of the object, if that is an array in short form. -/
inductive Sheet.Declares (i : UInt16) (k : UInt8) (v : Variable) : Prop
  | own {t : Section} (last : IsLast (fun t => t.About (.member i k)) sheet.sections t)
      (built : (sheet.variable t ⟨i, k⟩ node).outcome = .ok v)
  | compact {s : Section} (none : ∀ t ∈ sheet.sections, ¬ t.About (.member i k))
      (last : IsLast (fun s => s.Addresses i) sheet.sections s) (compact : s.has "CompactSubObj")
      (built : sheet.Compacts node s i k v)

/-- The account of a whole dictionary. -/
structure Provenance (d : Dictionary) : Prop where
  /-- There are objects where sections give one. -/
  indices : ∀ i, d.contains i ↔ ∃ s ∈ sheet.sections, s.Addresses i
  /-- An object is the one of the last section that gives one, but for members of a group. -/
  objects : ∀ i o, d.find? i = some o → ∃ s o₀, IsLast (fun s => s.Addresses i) sheet.sections s ∧
    sheet.Gives node s i o₀ ∧ o.frame = o₀.frame
  /-- A group has members where it has an array's short form, sections of members and listed
  names. -/
  subindices : ∀ i g s, d.find? i = some (.group g) →
    IsLast (fun s => s.Addresses i) sheet.sections s → ∀ k, (g.member? k).isSome ↔
      (s.has "CompactSubObj" ∧ (k = 0 ∨ k = 1)) ∨
      (∃ t ∈ sheet.sections, t.About (.member i k)) ∨ ∃ t ∈ sheet.sections, t.Lists i k
  /-- A listed member has the name of the last list that lists it, and all else from the first
  member before lists are read. -/
  listed : ∀ i g k t, d.find? i = some (.group g) →
    IsLast (fun t => t.Lists i k) sheet.sections t → ∃ template name,
      sheet.Declares node i 1 template ∧ t.value? (Text.decimal 1 k.toNat) = some name ∧
      g.member? k = some { template with name := name, subindex := k }
  /-- Any other member is the one that sections declare. -/
  declared : ∀ i g k v, d.find? i = some (.group g) →
    (∀ t ∈ sheet.sections, ¬ t.Lists i k) → g.member? k = some v → sheet.Declares node i k v
  /-- The bitrate is the one of the last section that sets it. -/
  bitrate : ∀ s, IsLast Section.Commissions sheet.sections s → ∃ b, d.bitrate = some b ∧ s.Rates b
  no_bitrate : (∀ s ∈ sheet.sections, ¬ s.Commissions) → d.bitrate = none
  nodeId : d.nodeId = node

end Accounts

/-! ### Members that objects start with -/

/-- A group starts with the members of its short form, if it has one, and else with none. -/
theorem Sheet.Gives.member? {sheet : Sheet} {node : Option UInt8} {s : Section} {i : UInt16}
    {g : Group} (h : sheet.Gives node s i (.group g)) (k : UInt8) :
    (s.has "CompactSubObj" ∧ (k = 0 ∨ k = 1) ∧
      ∃ v, g.member? k = some v ∧ sheet.Compacts node s i k v) ∨
    ¬ (s.has "CompactSubObj" ∧ (k = 0 ∨ k = 1)) ∧ g.member? k = none := by
  cases h with
  | own about built =>
      rw [outcome_object] at built
      obtain ⟨kind, hkind, built⟩ := Report.bind_eq_ok_iff.1 built
      rcases Section.kind_cases hkind with ⟨rfl, -⟩ | ⟨-, ⟨rfl, hshort⟩ |
        ⟨kind, rfl, -, hshort⟩⟩
      · obtain ⟨v, -, hv⟩ := Report.map_eq_ok_iff.1 built
        cases hv
      · obtain ⟨count, hcount, built⟩ := Report.bind_eq_ok_iff.1 built
        obtain ⟨template, htemplate, hg⟩ := Report.map_eq_ok_iff.1 built
        cases hg
        have hc : count.subindex = 0 := (Section.typed_countMember hcount).subindex
        have ht : template.subindex = 1 := (typed_variable htemplate).subindex
        rw [Group.member?_insert, Group.member?_insert, hc, ht]
        by_cases hone : k = 1
        · subst hone
          exact .inl ⟨hshort, .inr rfl, template, rfl, .template htemplate⟩
        by_cases hzero : k = 0
        · subst hzero
          exact .inl ⟨hshort, .inl rfl, count, rfl, .count hcount⟩
        · refine .inr ⟨fun hs => hs.2.elim hzero hone, ?_⟩
          rw [if_neg (Ne.symm hone), if_neg (Ne.symm hzero)]
          rfl
      · cases built
        exact .inr ⟨fun hs => hshort hs.1, rfl⟩

/-! ### Declared members -/

section Runs

variable {sheet : Sheet} {node : Option UInt8} {headed : List (Section × Heading)}
  {d d' : Dictionary} {i : UInt16} {g : Group} {s : Section}

/-- A group has a member without lists of names: one of a short form, or one with a section of its
own. -/
def Sheet.Stores (sheet : Sheet) (s : Section) (i : UInt16) (k : UInt8) : Prop :=
  (s.has "CompactSubObj" ∧ (k = 0 ∨ k = 1)) ∨ ∃ t ∈ sheet.sections, t.About (.member i k)

/-- After the second run a group has the members that sections declare, and no others. -/
theorem Sheet.declares_afterSecond (hheaded : sheet.sections.mapM Section.headed = .ok headed)
    (hs : IsLast (fun s => s.Addresses i) sheet.sections s) (hg : d.find? i = some (.group g))
    (hgives : sheet.Gives d.nodeId s i (.group g))
    (h : (headed.foldlM (Dictionary.secondPass sheet) d).outcome = .ok d') (k : UInt8) :
    (sheet.Stores s i k ∧ ∃ v, d'.member? i k = some v ∧ sheet.Declares d.nodeId i k v) ∨
      ¬ sheet.Stores s i k ∧ d'.member? i k = none := by
  rcases member?_afterSecond hheaded hg h k with ⟨t, ht, v, hv, hbuilt⟩ | ⟨hnone, hsame⟩
  · exact .inl ⟨.inr ⟨t, ht.mem, ht.holds⟩, v, hv, .own ht hbuilt⟩
  -- without a section of its own, a member is what the object started with
  rw [hsame, Dictionary.member?_of_find? hg]
  rcases hgives.member? k with ⟨hshort, hk, v, hv, hcompacts⟩ | ⟨hno, hv⟩
  · exact .inl ⟨.inl ⟨hshort, hk⟩, v, hv, .compact hnone hs hshort hcompacts⟩
  · refine .inr ⟨?_, hv⟩
    rintro (hshort | ⟨t, ht, habout⟩)
    · exact hno hshort
    · exact hnone t ht habout

/-! ### The whole dictionary -/

/-- At an index there is the object of the last section that gives one, but for members of a
group. -/
theorem Sheet.find?_dictionary (h : (sheet.dictionary node).outcome = .ok d) (i : UInt16) :
    (∃ s o₀ o, IsLast (fun s => s.Addresses i) sheet.sections s ∧ sheet.Gives node s i o₀ ∧
        d.find? i = some o ∧ o.frame = o₀.frame) ∨
      (∀ s ∈ sheet.sections, ¬ s.Addresses i) ∧ d.find? i = none := by
  obtain ⟨headed, d₁, d₂, hheaded, h₁, h₂, h₃⟩ := outcome_dictionary_eq_ok_iff.1 h
  have hframes := (sameFrames_afterSecond h₂).trans (sameFrames_afterThird h₃)
  rcases find?_afterFirst hheaded h₁ i with ⟨s, hs, o₀, ho₀, hgives⟩ | ⟨hnone, hsame⟩
  · have hframe := hframes.frames i
    rw [ho₀] at hframe
    obtain ⟨o, ho, hframe⟩ := Option.map_eq_some_iff.1 hframe
    exact .inl ⟨s, o₀, o, hs, hgives, ho, hframe⟩
  · exact .inr ⟨hnone, (hframes.find?_eq_none_iff i).2 hsame⟩

/-- Where there is an object, a last section gives it. -/
theorem Sheet.exists_addresses (h : (sheet.dictionary node).outcome = .ok d) {o : Object}
    (ho : d.find? i = some o) : ∃ s, IsLast (fun s => s.Addresses i) sheet.sections s := by
  rcases find?_dictionary h i with ⟨s, -, -, hs, -⟩ | ⟨-, hno⟩
  · exact ⟨s, hs⟩
  · cases ho.symm.trans hno

/-- A member of a group is one that a list names, after the first member, or else one that sections
declare. -/
theorem Sheet.member?_dictionary (h : (sheet.dictionary node).outcome = .ok d)
    (hg : d.find? i = some (.group g)) (hs : IsLast (fun s => s.Addresses i) sheet.sections s)
    (k : UInt8) :
    (∃ t, IsLast (fun t => t.Lists i k) sheet.sections t ∧ ∃ template name,
        sheet.Declares node i 1 template ∧ t.value? (Text.decimal 1 k.toNat) = some name ∧
        g.member? k = some { template with name := name, subindex := k }) ∨
      (∀ t ∈ sheet.sections, ¬ t.Lists i k) ∧
        ((sheet.Stores s i k ∧ ∃ v, g.member? k = some v ∧ sheet.Declares node i k v) ∨
          ¬ sheet.Stores s i k ∧ g.member? k = none) := by
  obtain ⟨headed, d₁, d₂, hheaded, h₁, h₂, h₃⟩ := outcome_dictionary_eq_ok_iff.1 h
  -- the object at the index is a group after each run
  obtain ⟨g₂, hg₂, -⟩ := (sameFrames_afterThird h₃).symm.exists_group hg
  obtain ⟨g₁, hg₁, -⟩ := (sameFrames_afterSecond h₂).symm.exists_group hg₂
  have hdeclared : ∀ k, (sheet.Stores s i k ∧ ∃ v, d₂.member? i k = some v ∧
      sheet.Declares node i k v) ∨ ¬ sheet.Stores s i k ∧ d₂.member? i k = none := by
    rcases find?_afterFirst hheaded h₁ i with ⟨s', hs', o, ho, hgives⟩ | ⟨hnone, -⟩
    · cases hs.unique hs'
      cases hg₁.symm.trans ho
      have hnode : d₁.nodeId = node := nodeId_afterFirst h₁
      rw [← hnode] at hgives ⊢
      exact declares_afterSecond hheaded hs hg₁ hgives h₂
    · exact absurd hs.holds (hnone s hs.mem)
  rw [← Dictionary.member?_of_find? hg]
  rcases member?_afterThird hheaded hg₂ h₃ k with
    ⟨t, ht, template, name, htemplate, hname, hk⟩ | ⟨hnone, hsame⟩
  · rcases hdeclared 1 with ⟨-, v, hv, hdeclares⟩ | ⟨-, hv⟩
    · cases htemplate.symm.trans hv
      exact .inl ⟨t, ht, template, name, hdeclares, hname, hk⟩
    · cases htemplate.symm.trans hv
  · rw [hsame]
    exact .inr ⟨hnone, hdeclared k⟩

/-- The bitrate is the one of the last section that sets it. -/
theorem Sheet.bitrate_dictionary (h : (sheet.dictionary node).outcome = .ok d) :
    (∃ s, IsLast Section.Commissions sheet.sections s ∧ ∃ b, d.bitrate = some b ∧ s.Rates b) ∨
      (∀ s ∈ sheet.sections, ¬ s.Commissions) ∧ d.bitrate = none := by
  obtain ⟨headed, d₁, d₂, hheaded, h₁, h₂, h₃⟩ := outcome_dictionary_eq_ok_iff.1 h
  rw [((sameFrames_afterSecond h₂).trans (sameFrames_afterThird h₃)).bitrate]
  exact bitrate_afterFirst hheaded h₁

theorem Sheet.nodeId_dictionary (h : (sheet.dictionary node).outcome = .ok d) :
    d.nodeId = node := by
  obtain ⟨headed, d₁, d₂, -, h₁, h₂, h₃⟩ := outcome_dictionary_eq_ok_iff.1 h
  exact ((sameFrames_afterSecond h₂).trans (sameFrames_afterThird h₃)).nodeId.trans
    (nodeId_afterFirst h₁)

/-- **A data sheet accounts for all of its dictionary.** -/
theorem Sheet.provenance (h : (sheet.dictionary node).outcome = .ok d) :
    Provenance sheet node d where
  indices i := by
    rcases find?_dictionary h i with ⟨s, -, o, hs, -, ho, -⟩ | ⟨hnone, ho⟩
    · have hi : d.contains i = true := by
        rw [Dictionary.contains, ho]
        rfl
      exact ⟨fun _ => ⟨s, hs.mem, hs.holds⟩, fun _ => hi⟩
    · have hi : d.contains i = false := by
        rw [Dictionary.contains, ho]
        rfl
      rw [hi]
      exact ⟨nofun, fun ⟨s, hs, haddresses⟩ => absurd haddresses (hnone s hs)⟩
  objects i o ho := by
    rcases find?_dictionary h i with ⟨s, o₀, o', hs, hgives, ho', hframe⟩ | ⟨-, hno⟩
    · cases ho.symm.trans ho'
      exact ⟨s, o₀, hs, hgives, hframe⟩
    · cases ho.symm.trans hno
  subindices i g s hg hs k := by
    rw [← or_assoc]
    change _ ↔ sheet.Stores s i k ∨ ∃ t ∈ sheet.sections, t.Lists i k
    rcases member?_dictionary h hg hs k with ⟨t, ht, template, name, -, -, hk⟩ |
      ⟨hnone, ⟨hstores, v, hk, -⟩ | ⟨hstores, hk⟩⟩
    · rw [hk]
      exact ⟨fun _ => .inr ⟨t, ht.mem, ht.holds⟩, fun _ => rfl⟩
    · rw [hk]
      exact ⟨fun _ => .inl hstores, fun _ => rfl⟩
    · rw [hk]
      refine ⟨nofun, ?_⟩
      rintro (h | ⟨t, ht, hlists⟩)
      · exact absurd h hstores
      · exact absurd hlists (hnone t ht)
  listed i g k t hg ht := by
    obtain ⟨s, hs⟩ := exists_addresses h hg
    rcases member?_dictionary h hg hs k with ⟨t', ht', hlisted⟩ | ⟨hnone, -⟩
    · cases ht.unique ht'
      exact hlisted
    · exact absurd ht.holds (hnone t ht.mem)
  declared i g k v hg hnone hv := by
    obtain ⟨s, hs⟩ := exists_addresses h hg
    rcases member?_dictionary h hg hs k with ⟨t, ht, -⟩ | ⟨-, ⟨-, w, hw, hdeclares⟩ | ⟨-, hw⟩⟩
    · exact absurd ht.holds (hnone t ht.mem)
    · cases hv.symm.trans hw
      exact hdeclares
    · cases hv.symm.trans hw
  bitrate s hs := by
    rcases bitrate_dictionary h with ⟨s', hs', hb⟩ | ⟨hnone, -⟩
    · cases hs.unique hs'
      exact hb
    · exact absurd hs.holds (hnone s hs.mem)
  no_bitrate hnone := by
    rcases bitrate_dictionary h with ⟨s, hs, -⟩ | ⟨-, hb⟩
    · exact absurd hs.holds (hnone s hs.mem)
    · exact hb
  nodeId := nodeId_dictionary h

end Runs

/-- **A text accounts for all of its dictionary**: for its objects, their members, and what it says
about the device. -/
theorem provenance_ofText {text : String} {node : Option UInt8} {d : Dictionary}
    (h : (Dictionary.ofText text node).outcome = .ok d) :
    ∃ sheet, (Sheet.ofText text).outcome = .ok sheet ∧ Provenance sheet node d := by
  obtain ⟨sheet, hsheet, hd⟩ := Dictionary.outcome_ofText_eq_ok_iff.1 h
  exact ⟨sheet, hsheet, sheet.provenance hd⟩

/-- A data sheet with an index in two spellings, a first member of its own in a third one, a list of
names, and a dummy. -/
def spellings : String :=
  String.intercalate "\n"
    ["[100A]", "DataType=5", "[100a]", "ObjectType=8", "CompactSubObj=2", "DataType=5",
      "[100ASub01]", "DataType=6", "[100aName]", "NrOfEntries=2", "2=Second", "[dummyUsage]",
      "Dummy0005=1"]

theorem provenance_ofText_spellings : ∃ d sheet,
    (Dictionary.ofText spellings none).outcome = .ok d ∧ Provenance sheet none d := by
  obtain ⟨d, hd⟩ := Report.exists_of_isSome (r := (Dictionary.ofText spellings none).outcome)
    (by decide +kernel)
  obtain ⟨sheet, -, h⟩ := provenance_ofText hd
  exact ⟨d, sheet, hd, h⟩

end DataSheet
