/-
**An array in short form is the array written out.**

A data sheet with an array in short form is read along with the one in which the array is written
out.  The two dictionaries stay side by side: in the first run they get the group with its count and
its template on the one side and an empty group on the other, in the second run the members come to
the other side, and in the third run the names to the one.  In the end the two groups are the same.

Main definitions:

* `Section.replacedAs` — what is left of a section with its heading;
* `Section.membersOf` — the members that the sections of an array written out describe;
* `Group.Templated` — a group stores a template, up to its name.

Main results:

* `Dictionary.Beside.firstPass`, `Dictionary.Beside.secondPass`, `Dictionary.Beside.thirdPass` —
  **sections about other indices keep dictionaries side by side**;
* `Dictionary.Beside.listNames` — what lists of names do to one of the groups;
* `Sheet.ShortForm.dictionary_expanded` — **the data sheet with the array written out gives a
  dictionary that cannot be told from that of the short form**.
-/

import DataSheet.Proofs.Beside
import DataSheet.Proofs.Expansion
import DataSheet.Proofs.Sheets

set_option relaxedAutoImplicit false
set_option autoImplicit false

namespace DataSheet

/-! ### Sections about other indices -/

namespace Dictionary.Beside

variable {S T : Sheet} {g h : Group} {d e d' : Dictionary} {x : Section × Heading}

/-- In the first run a section about another index adds the same on both sides. -/
theorem firstPass (hgh : g.Paired h) (hde : Beside g h d e) (hST : S.TypesIn T)
    (hx : Heading.ofName x.1.name = .ok x.2) (hother : ¬ x.1.Addresses g.index)
    (hrun : (Dictionary.firstPass S d x).outcome = .ok d') :
    ∃ e', (Dictionary.firstPass T e x).outcome = .ok e' ∧ Beside g h d' e' := by
  obtain ⟨c, hc, rfl⟩ := exists_contribution hrun
  have hobjects : ∀ o ∈ c.objects, o.index ≠ g.index := by
    intro o ho hindex
    have haddresses := (Sheet.gives_of_contribution hx hc ho).1
    rw [hindex] at haddresses
    exact hother haddresses
  refine ⟨e.take c, ?_, hde.take hgh hobjects⟩
  rw [← Report.result?_eq_some_iff, result?_firstPass, ← hde.nodeId, hST.contribution hc]
  rfl

/-- In the second run a section about another index enters the same member on both sides. -/
theorem secondPass (hgh : g.Paired h) (hde : Beside g h d e) (hST : S.TypesIn T)
    (hother : ∀ k, x.2 ≠ .member g.index k)
    (hrun : (Dictionary.secondPass S d x).outcome = .ok d') :
    ∃ e', (Dictionary.secondPass T e x).outcome = .ok e' ∧ Beside g h d' e' := by
  obtain ⟨s, heading⟩ := x
  cases heading with
  | member i k =>
      have hi : i ≠ g.index := by
        rintro rfl
        exact hother k rfl
      obtain ⟨v, o, hv, ho, rfl⟩ := addMember_eq_ok_iff.1 hrun
      refine ⟨e.insertMembers i (o.only v), ?_, hde.insertMembers_of_ne hgh hi _⟩
      refine addMember_eq_ok_iff.2 ⟨v, o, ?_, ?_, rfl⟩
      · rw [← hde.nodeId]
        exact hST.outcome_variable hv
      · rw [← hde.find?_of_ne hgh hi]
        exact ho
  | commissioning | dummyUsage | object i | nameList i | other =>
      cases hrun
      exact ⟨e, rfl, hde⟩

/-- In the third run a list of names for another index enters the same members on both sides. -/
theorem thirdPass (hgh : g.Paired h) (hde : Beside g h d e) (hother : x.2 ≠ .nameList g.index)
    (hrun : (Dictionary.thirdPass d x).outcome = .ok d') :
    ∃ e', (Dictionary.thirdPass e x).outcome = .ok e' ∧ Beside g h d' e' := by
  obtain ⟨s, heading⟩ := x
  cases heading with
  | nameList i =>
      have hi : i ≠ g.index := by
        rintro rfl
        exact hother rfl
      obtain ⟨count, o, vs, hcount, ho, hvs, rfl⟩ := addNames_eq_ok_iff.1 hrun
      refine ⟨e.insertMembers i vs, ?_, hde.insertMembers_of_ne hgh hi vs⟩
      refine addNames_eq_ok_iff.2 ⟨count, o, vs, hcount, ?_, hvs, rfl⟩
      rw [← hde.find?_of_ne hgh hi]
      exact ho
  | commissioning | dummyUsage | object i | member i k | other =>
      cases hrun
      exact ⟨e, rfl, hde⟩

end Dictionary.Beside

/-! ### Headings -/

namespace Section

/-- What is left of a section with its heading when the array at an index is written out. -/
def replacedAs (index : UInt16) (x : Section × Heading) : Option (Section × Heading) :=
  if x.2 = .object index then some (x.1.reduced, x.2)
  else if x.2 = .nameList index then none
  else some x

theorem replacedAs_object {index : UInt16} {x : Section × Heading} (h : x.2 = .object index) :
    replacedAs index x = some (x.1.reduced, x.2) := if_pos h

theorem replacedAs_nameList {index : UInt16} {x : Section × Heading} (h : x.2 = .nameList index) :
    replacedAs index x = none := by
  unfold replacedAs
  rw [h, if_neg Heading.noConfusion, if_pos rfl]

theorem replacedAs_other {index : UInt16} {x : Section × Heading} (ho : x.2 ≠ .object index)
    (hl : x.2 ≠ .nameList index) : replacedAs index x = some x :=
  (if_neg ho).trans (if_neg hl)

theorem replaced_of_heading (index : UInt16) {x : Section × Heading}
    (hx : Heading.ofName x.1.name = .ok x.2) :
    x.1.replaced index = (replacedAs index x).map Prod.fst := by
  unfold replaced replacedAs
  rw [hx]
  simp only [Except.ok.injEq]
  split
  · rfl
  · split <;> rfl

theorem headed_of_replacedAs {index : UInt16} {x y : Section × Heading}
    (hx : Heading.ofName x.1.name = .ok x.2) (hy : replacedAs index x = some y) :
    y.1.headed = .ok y := by
  have hname : y.1.name = x.1.name ∧ y.2 = x.2 := by
    unfold replacedAs at hy
    split at hy
    · cases hy
      exact ⟨rfl, rfl⟩
    · split at hy
      · cases hy
      · cases hy
        exact ⟨rfl, rfl⟩
  unfold headed
  rw [hname.1, hx, ← hname.2]

/-- The headings of what is left. -/
theorem mapM_headed_replaced (index : UInt16) {sections : List Section}
    {headed : List (Section × Heading)} (h : sections.mapM Section.headed = .ok headed) :
    (sections.filterMap (replaced index)).mapM Section.headed =
      .ok (headed.filterMap (replacedAs index)) := by
  obtain ⟨rfl, hheadings⟩ := headings_eq h
  rw [Report.mapM_eq_ok_iff]
  clear h
  induction headed with
  | nil => rfl
  | cons x headed ih =>
      have hrest := ih fun y hy => hheadings y (List.mem_cons_of_mem x hy)
      have hx := hheadings x List.mem_cons_self
      have hreplaced := replaced_of_heading index hx
      rw [List.map_cons]
      cases hy : replacedAs index x with
      | none =>
          rw [hy] at hreplaced
          rw [List.filterMap_cons_none hreplaced, List.filterMap_cons_none hy, hrest]
      | some y =>
          rw [hy] at hreplaced
          rw [List.filterMap_cons_some hreplaced, List.filterMap_cons_some hy, List.map_cons,
            List.map_cons, hrest]
          exact congrArg (· :: _) (headed_of_replacedAs hx hy)

end Section

/-! ### The members written out -/

theorem Heading.Spelled.ofName_eq {name : String} {h : Heading} (hs : Spelled name.toList h) :
    ofName name = .ok h :=
  (ofName_eq_ok_iff hs.ne_other).2 hs

/-- The members that the sections of an array written out describe. -/
def Section.membersOf (s : Section) (names : List (UInt8 × String)) (count template : Variable) :
    List Variable :=
  count :: Dictionary.namedMember template 1 ((names.lookup 1).getD s.title) ::
    (names.filter fun x => 1 < x.1).map fun x => Dictionary.namedMember template x.1 x.2

/-- A section describes a variable as a member at an index. -/
def Sheet.Describes (sheet : Sheet) (node : Option UInt8) (index : UInt16) (t : Section)
    (v : Variable) : Prop :=
  ∃ k, Heading.ofName t.name = .ok (.member index k) ∧
    (sheet.variable t ⟨index, k⟩ node).outcome = .ok v

namespace Sheet

variable {S T : Sheet} {s : Section} {index : UInt16} {node : Option UInt8}
  {count template : Variable} {spell : UInt8 → String}

theorem describes_elementSection (hST : S.TypesIn T) (hspell : Spells index spell)
    (htemplate : (S.variable s ⟨index, Group.templateSubindex⟩ node).outcome = .ok template)
    (k : UInt8) (title : String) :
    T.Describes node index (s.elementSection (spell k) title)
      (Dictionary.namedMember template k title) := by
  refine ⟨k, (hspell k).ofName_eq, ?_⟩
  have hunder := hST.outcome_variable_under (s.sameAttributes_elementSection (spell k) title)
    htemplate ⟨index, k⟩
  rw [Section.title_elementSection] at hunder
  have hindex : template.index = index := (typed_variable htemplate).index
  have hsame : template.under title ⟨index, k⟩ = Dictionary.namedMember template k title := by
    unfold Variable.under Dictionary.namedMember
    rw [hindex]
  rw [hunder, hsame]

/-- The sections of an array written out describe its members. -/
theorem describes_expansion (hST : S.TypesIn T) (hspell : Spells index spell)
    (hshort : s.has "CompactSubObj") (hcount : (s.countMember index).outcome = .ok count)
    (htemplate : (S.variable s ⟨index, Group.templateSubindex⟩ node).outcome = .ok template)
    (names : List (UInt8 × String)) :
    List.Forall₂ (T.Describes node index) (s.expansion names spell)
      (s.membersOf names count template) := by
  obtain ⟨e, he⟩ := Option.isSome_iff_exists.1 hshort
  have hliteral : (s.value? "CompactSubObj").getD "" = e.value := by
    unfold Section.value?
    rw [he]
    rfl
  have hfirst : T.Describes node index
      (Section.countSection (spell 0) ((s.value? "CompactSubObj").getD "")) count := by
    refine ⟨0, (hspell 0).ofName_eq, ?_⟩
    rw [hliteral]
    exact T.outcome_variable_countSection he hcount (spell 0) node
  refine .cons hfirst (.cons (describes_elementSection hST hspell htemplate 1 _) ?_)
  rw [List.forall₂_map_left_iff, List.forall₂_map_right_iff]
  exact List.forall₂_same.2 fun x _ => describes_elementSection hST hspell htemplate x.1 x.2

/-- Sections of members have headings that do so. -/
theorem mapM_headed_of_describes {ts : List Section} {vs : List Variable}
    (h : List.Forall₂ (T.Describes node index) ts vs) :
    ∃ headed, ts.mapM Section.headed = .ok headed ∧
      List.Forall₂ (fun (x : Section × Heading) v => ∃ k, x.2 = .member index k ∧
        (T.variable x.1 ⟨index, k⟩ node).outcome = .ok v) headed vs := by
  induction h with
  | nil => exact ⟨[], rfl, .nil⟩
  | @cons t v ts vs htv _ ih =>
      obtain ⟨headed, hheaded, hall⟩ := ih
      obtain ⟨k, hk, hv⟩ := htv
      refine ⟨(t, .member index k) :: headed, ?_, .cons ⟨k, rfl, hv⟩ hall⟩
      rw [Report.mapM_eq_ok_iff] at hheaded ⊢
      rw [List.map_cons, List.map_cons, hheaded]
      refine congrArg (· :: _) ?_
      unfold Section.headed
      rw [hk]

/-- The second run enters the members that sections describe into the group at their index. -/
theorem secondRun_of_describes {headed : List (Section × Heading)} {vs : List Variable}
    (h : List.Forall₂ (fun (x : Section × Heading) v => ∃ k, x.2 = .member index k ∧
      (T.variable x.1 ⟨index, k⟩ node).outcome = .ok v) headed vs)
    {e : Dictionary} (hnode : e.nodeId = node) {g : Group}
    (hg : e.find? index = some (.group g)) :
    (headed.foldlM (Dictionary.secondPass T) e).outcome = .ok (e.insertMembers index vs) := by
  induction h generalizing e g with
  | nil => rfl
  | @cons x v headed vs hxv _ ih =>
      obtain ⟨s, heading⟩ := x
      obtain ⟨k, hk, hv⟩ := hxv
      dsimp only at hk hv
      subst hk
      have hstep : (Dictionary.secondPass T e (s, .member index k)).outcome =
          .ok (e.insertMember index v) :=
        Dictionary.addMember_eq_ok_iff.2 ⟨v, .group g, hnode ▸ hv, hg, rfl⟩
      rw [List.foldlM_cons, Report.outcome_bind_eq_ok_iff]
      exact ⟨_, hstep, ih hnode (Dictionary.find?_insertMember_group hg v)⟩

end Sheet

/-! ### Lists of names -/

/-- The group stores a template that makes the same members as `template`. -/
def Group.Templated (g : Group) (template : Variable) : Prop :=
  ∃ t, g.template? = some t ∧
    Dictionary.namedMember t = Dictionary.namedMember template

/-- A list may rename the template, but it makes the same members. -/
theorem Group.Templated.insert {g : Group} {template : Variable} (h : g.Templated template)
    (k : UInt8) (name : String) :
    (g.insert (Dictionary.namedMember template k name)).Templated template := by
  obtain ⟨t, ht, hsame⟩ := h
  by_cases hk : k = Group.templateSubindex
  · subst hk
    exact ⟨_, (Group.member?_insert g _ _).trans (if_pos rfl), rfl⟩
  · exact ⟨t, (Group.member?_insert g _ _).trans ((if_neg hk).trans ht), hsame⟩

theorem Group.Templated.foldl_insert {g : Group} {template : Variable} (h : g.Templated template)
    (names : List (UInt8 × String)) :
    ((names.map fun x => Dictionary.namedMember template x.1 x.2).foldl Group.insert g).Templated
      template := by
  induction names generalizing g with
  | nil => exact h
  | cons x names ih => exact ih (h.insert x.1 x.2)

namespace Group.Paired

variable {g h : Group}

theorem symm (hgh : g.Paired h) : h.Paired g := ⟨hgh.index.symm, hgh.name.symm⟩

theorem foldl_insert_left (hgh : g.Paired h) (vs : List Variable) :
    (vs.foldl Group.insert g).Paired h := by
  induction vs generalizing g with
  | nil => exact hgh
  | cons v vs ih => exact ih (g := g.insert v) ⟨hgh.index, hgh.name⟩

end Group.Paired

namespace Dictionary.Beside

variable {g h : Group} {d e d' : Dictionary} {template : Variable}

/-- In the third run a list of names for the index enters its members into one of the groups. -/
theorem listNames (hgh : g.Paired h) (hde : Beside g h d e) (ht : g.Templated template)
    {x : Section × Heading} (hx : Heading.ofName x.1.name = .ok x.2)
    (hlist : x.2 = .nameList g.index) (hrun : (Dictionary.thirdPass d x).outcome = .ok d') :
    Beside (((x.1.namesFor g.index).map fun y => namedMember template y.1 y.2).foldl Group.insert g)
      h d' e := by
  obtain ⟨s, heading⟩ := x
  dsimp only at hx hlist ⊢
  subst hlist
  obtain ⟨count, o, vs, hcount, ho, hvs, rfl⟩ := addNames_eq_ok_iff.1 hrun
  obtain ⟨rfl, -⟩ := hde.find?_group hgh ho
  have hnames : s.namesFor g.index = listedNames s count := by
    unfold Section.namesFor
    rw [if_pos hx, hcount]
    rfl
  obtain ⟨t, ht, hsame⟩ := ht
  unfold Object.named at hvs
  dsimp only at hvs
  rw [Group.element_template, ht] at hvs
  cases hvs
  rw [hnames, ← hsame]
  exact hde.insertMembers_left _

/-- What the third run does to dictionaries side by side, if one of them is without the lists for
the index. -/
theorem thirdRun {index : UInt16} {headed : List (Section × Heading)}
    (hheaded : ∀ x ∈ headed, Heading.ofName x.1.name = .ok x.2) (hindex : g.index = index)
    (hgh : g.Paired h) (hde : Beside g h d e) (ht : g.Templated template)
    (hrun : (headed.foldlM Dictionary.thirdPass d).outcome = .ok d') :
    ∃ e', ((headed.filterMap (Section.replacedAs index)).foldlM Dictionary.thirdPass e).outcome =
        .ok e' ∧
      Beside (((headed.flatMap fun x => x.1.namesFor index).map fun y =>
        namedMember template y.1 y.2).foldl Group.insert g) h d' e' := by
  induction headed generalizing g d e with
  | nil =>
      cases hrun
      exact ⟨e, rfl, hde⟩
  | cons x headed ih =>
      have hrest := fun y hy => hheaded y (List.mem_cons_of_mem x hy)
      have hx := hheaded x List.mem_cons_self
      rw [List.foldlM_cons, Report.outcome_bind_eq_ok_iff] at hrun
      obtain ⟨d₁, hd₁, hrun⟩ := hrun
      rw [List.flatMap_cons, List.map_append, List.foldl_append]
      by_cases hlist : x.2 = .nameList index
      · -- on the left its members are entered, and on the right the list is gone
        rw [List.filterMap_cons_none (Section.replacedAs_nameList hlist)]
        subst hindex
        have hpaired := hgh.foldl_insert_left ((x.1.namesFor g.index).map fun y =>
          namedMember template y.1 y.2)
        exact ih hrest (hpaired.index.trans hgh.index.symm) hpaired
          (hde.listNames hgh ht hx hlist hd₁) (ht.foldl_insert _) hrun
      · have hnames : x.1.namesFor index = [] := by
          unfold Section.namesFor
          rw [hx, if_neg fun h => hlist (Except.ok.inj h)]
        rw [hnames]
        obtain ⟨e₁, he₁, hde₁⟩ := hde.thirdPass hgh (hindex ▸ hlist) hd₁
        obtain ⟨e', he', hde'⟩ := ih hrest hindex hgh hde₁ ht hrun
        refine ⟨e', ?_, hde'⟩
        by_cases hobject : x.2 = .object index
        · rw [List.filterMap_cons_some (Section.replacedAs_object hobject)]
          obtain ⟨s, heading⟩ := x
          dsimp only at hobject
          subst hobject
          cases he₁
          exact he'
        · rw [List.filterMap_cons_some (Section.replacedAs_other hobject hlist), List.foldlM_cons,
            Report.outcome_bind_eq_ok_iff]
          exact ⟨e₁, he₁, he'⟩

end Dictionary.Beside

/-! ### The groups in the end -/

/-- A template that gives way to the first listed element leaves no trace. -/
theorem Group.same_insert_insert {g : Group} (hg : g.members = .empty) {count v w : Variable}
    (hvw : v.subindex = w.subindex) (hcount : count.subindex ≠ w.subindex) :
    (((g.insert count).insert v).insert w).Same ((g.insert count).insert w) where
  kind := rfl
  index := rfl
  name := rfl
  description := rfl
  members := by
    unfold Group.insert
    rw [hg]
    exact Registry.same_insert_insert hvw hcount

/-- The template is the element that stands in its place under its name. -/
theorem Dictionary.namedMember_self {template : Variable} {title : String} {index : UInt16}
    (h : template.under title ⟨index, Group.templateSubindex⟩ = template) :
    namedMember template 1 title = template :=
  calc namedMember template 1 title
      = namedMember (template.under title ⟨index, Group.templateSubindex⟩) 1 title := by rw [h]
    _ = template.under title ⟨index, Group.templateSubindex⟩ := rfl
    _ = template := h

namespace Section

variable {s : Section} {names : List (UInt8 × String)}

theorem filter_names (h : ∀ x ∈ names, 1 < x.1) : names.filter (fun x => 1 < x.1) = names :=
  List.filter_eq_self.2 fun x hx => decide_eq_true (h x hx)

/-- Without a name of its own the template is a member as it is. -/
theorem membersOf_of_unlisted {count template : Variable} (h : ∀ x ∈ names, 1 < x.1)
    (hself : Dictionary.namedMember template 1 s.title = template) :
    s.membersOf names count template =
      count :: template :: names.map fun x => Dictionary.namedMember template x.1 x.2 := by
  have hlookup : names.lookup 1 = none := by
    rw [List.lookup_eq_none_iff]
    intro x hx
    have hne : (1 : UInt8) ≠ x.1 := UInt8.ne_of_lt (h x hx)
    simpa using hne
  unfold membersOf
  rw [hlookup, filter_names h]
  exact congrArg (fun v => count :: v :: _) hself

/-- The first listed name may be that of the template. -/
theorem membersOf_of_listed {count template : Variable} (h : ∀ x ∈ names, 1 < x.1)
    (name : String) : s.membersOf ((1, name) :: names) count template =
      count :: Dictionary.namedMember template 1 name ::
        names.map fun x => Dictionary.namedMember template x.1 x.2 := by
  unfold membersOf
  rw [List.filter_cons_of_neg (by simp), filter_names h]
  rfl

end Section

/-- **The group of the short form and the group written out are the same in the end**, if the names
are listed in ascending order. -/
theorem Group.same_membersOf {s : Section} {index : UInt16} {count template : Variable}
    {names : List (UInt8 × String)} (hcount : count.subindex = 0)
    (htemplate : template.under s.title ⟨index, Group.templateSubindex⟩ = template)
    (hascends : names.Pairwise fun x y => x.1 < y.1) (hnames : ∀ x ∈ names, 1 ≤ x.1)
    {g : Group} (hg : g.members = .empty) :
    ((names.map fun x => Dictionary.namedMember template x.1 x.2).foldl Group.insert
        ((g.insert count).insert template)).Same
      ((s.membersOf names count template).foldl Group.insert g) := by
  have hself := Dictionary.namedMember_self htemplate
  cases names with
  | nil =>
      have hnone : ∀ x ∈ ([] : List (UInt8 × String)), 1 < x.1 := nofun
      rw [Section.membersOf_of_unlisted hnone hself]
      exact .refl _
  | cons x rest =>
      obtain ⟨k, name⟩ := x
      obtain ⟨hlt, -⟩ := List.pairwise_cons.1 hascends
      have hk := hnames (k, name) List.mem_cons_self
      by_cases hone : k = 1
      · -- the list renames the template
        subst hone
        have hsubindex : template.subindex = 1 := (congrArg Variable.subindex htemplate).symm
        rw [Section.membersOf_of_listed hlt]
        refine Group.Same.foldl_insert (same_insert_insert hg hsubindex ?_) _
        rw [hcount]
        exact UInt8.zero_ne_one
      · have hlt' : ∀ x ∈ (k, name) :: rest, 1 < x.1 := by
          intro x hx
          have hfirst : 1 < k := UInt8.lt_of_le_of_ne hk (Ne.symm hone)
          rcases List.mem_cons.1 hx with rfl | hx
          · exact hfirst
          · exact UInt8.lt_trans hfirst (hlt x hx)
        rw [Section.membersOf_of_unlisted hlt' hself]
        exact .refl _

/-! ### Names in ascending order -/

/-- A list of names goes up from one. -/
theorem Dictionary.ascends_listedNames (s : Section) (count : UInt8) :
    (listedNames s count).Pairwise fun x y => x.1 < y.1 := by
  unfold listedNames
  rw [List.pairwise_filterMap]
  refine List.pairwise_lt_range.imp_of_mem fun {j k} _ hk hjk => ?_
  intro x hx y hy
  obtain ⟨_, -, rfl⟩ := Option.map_eq_some_iff.1 hx
  obtain ⟨_, -, rfl⟩ := Option.map_eq_some_iff.1 hy
  have hcount := count.toNat_lt
  have hkc := List.mem_range.1 hk
  have hj : j + 1 < UInt8.size := by
    change j + 1 < 256
    omega
  have hk : k + 1 < UInt8.size := by
    change k + 1 < 256
    omega
  rw [UInt8.lt_iff_toNat_lt, UInt8.toNat_ofNat_of_lt' hj, UInt8.toNat_ofNat_of_lt' hk]
  omega

/-- A section that gives names is a list of them. -/
theorem Section.namesFor_cases (index : UInt16) (s : Section) :
    s.namesFor index = [] ∨
      s.About (.nameList index) ∧ ∃ count, s.namesFor index = Dictionary.listedNames s count := by
  unfold namesFor
  split
  next hs =>
    cases s.nameCount.toOption with
    | none => exact .inl rfl
    | some count => exact .inr ⟨about_of hs nofun, count, rfl⟩
  next => exact .inl rfl

namespace Sheet.ShortForm

variable {S : Sheet} {index : UInt16} {s : Section}

/-- The names for an array in short form are those of one list, in its order. -/
theorem ascends_namesAt (h : S.ShortForm index s) (hS : S.Proper) :
    (S.namesAt index).Pairwise fun x y => x.1 < y.1 := by
  unfold namesAt
  rw [List.pairwise_flatMap]
  constructor
  · intro t ht
    rcases t.namesFor_cases index with hnone | ⟨-, count, hnames⟩
    · rw [hnone]
      exact .nil
    · rw [hnames]
      exact Dictionary.ascends_listedNames t count
  · refine (List.pairwise_map.1 hS.distinct).imp_of_mem fun {t u} ht hu htu x hx y hy => ?_
    rcases t.namesFor_cases index with hnone | ⟨ht', -⟩
    · rw [hnone] at hx
      cases hx
    rcases u.namesFor_cases index with hnone | ⟨hu', -⟩
    · rw [hnone] at hy
      cases hy
    exact absurd (congrArg Section.name (h.list t ht u hu ht' hu')) htu

theorem one_le_of_mem_namesAt {x : UInt8 × String} (hx : x ∈ S.namesAt index) : 1 ≤ x.1 := by
  obtain ⟨t, -, hx⟩ := List.mem_flatMap.1 hx
  rcases t.namesFor_cases index with hnone | ⟨-, count, hnames⟩
  · rw [hnone] at hx
    cases hx
  · rw [hnames] at hx
    exact UInt8.le_iff_toNat_le.2 (Dictionary.mem_listedNames.1 hx).1

end Sheet.ShortForm

/-! ### The three runs -/

namespace Section

/-- The section of an array written out describes a group without members. -/
theorem outcome_object_reduced (T : Sheet) (s : Section) (index : UInt16) (node : Option UInt8) :
    (T.object s.reduced index node).outcome = .ok (.group (Group.empty .array s.title index)) := by
  have hkind : s.reduced.objectKind.outcome = .ok (.group .array) := rfl
  rw [Sheet.outcome_object]
  exact Report.bind_eq_ok_iff.2 ⟨_, hkind, rfl⟩

end Section

namespace Sheet.ShortForm

variable {S : Sheet} {index : UInt16} {s : Section} {spell : UInt8 → String}
  {node : Option UInt8} {headed : List (Section × Heading)} {g h : Group} {d e d' : Dictionary}

/-- The group that an array in short form describes. -/
theorem object_cases (hs : S.ShortForm index s) {o : Object}
    (ho : (S.object s index node).outcome = .ok o) :
    ∃ count template, (s.countMember index).outcome = .ok count ∧
      (S.variable s ⟨index, Group.templateSubindex⟩ node).outcome = .ok template ∧
      o = .group (((Group.empty .array s.title index).insert count).insert template) := by
  rw [outcome_object] at ho
  obtain ⟨kind, hkind, ho⟩ := Report.bind_eq_ok_iff.1 ho
  rcases Section.kind_cases hkind with ⟨-, hplain⟩ | ⟨-, ⟨rfl, -⟩ | ⟨k, -, -, hlong⟩⟩
  · exact absurd hs.kind hplain.not_isGroup
  · obtain ⟨count, hcount, ho⟩ := Report.bind_eq_ok_iff.1 ho
    obtain ⟨template, htemplate, rfl⟩ := Report.map_eq_ok_iff.1 ho
    exact ⟨count, template, hcount, htemplate, rfl⟩
  · exact absurd hs.short hlong

/-- The section of the array adds the group of the short form on the one side, and a group without
members on the other. -/
theorem addObject (hgh : g.Paired h) (hh : h = Group.empty .array s.title index)
    (hg : ∀ o, (S.object s index d.nodeId).outcome = .ok o → o = .group g)
    (hde : Dictionary.Beside g h d e) (T : Sheet)
    (hstep : (d.addObject S s index).outcome = .ok d') :
    ∃ e', (e.addObject T s.reduced index).outcome = .ok e' ∧ Dictionary.Beside g h d' e' := by
  rw [Dictionary.outcome_addObject, Report.map_eq_ok_iff] at hstep
  obtain ⟨o, ho, rfl⟩ := hstep
  cases hg o ho
  refine ⟨e.insert (.group h), ?_, hde.insert hgh (.inr ⟨rfl, rfl⟩)⟩
  rw [Dictionary.outcome_addObject, Section.outcome_object_reduced, hh]
  rfl

/-- The first run gives the group of the short form on the one side, and a group without members on
the other. -/
theorem firstRun (hs : S.ShortForm index s) (hspell : Spells index spell)
    (hheaded : S.sections.mapM Section.headed = .ok headed) (hgh : g.Paired h)
    (hindex : g.index = index) (hh : h = Group.empty .array s.title index)
    (hg : ∀ o, (S.object s index node).outcome = .ok o → o = .group g)
    (hnode : d.nodeId = node) (hde : Dictionary.Beside g h d e)
    (hrun : (headed.foldlM (Dictionary.firstPass S) d).outcome = .ok d') :
    ∃ e', ((headed.filterMap (Section.replacedAs index)).foldlM
        (Dictionary.firstPass (S.expanded index s spell)) e).outcome = .ok e' ∧
      Dictionary.Beside g h d' e' := by
  obtain ⟨hsections, hheadings⟩ := Section.headings_eq hheaded
  have hsteps : ∀ x ∈ headed, ∀ d e d', d.nodeId = node ∧ Dictionary.Beside g h d e →
      (Dictionary.firstPass S d x).outcome = .ok d' →
        ∃ e', ((Section.replacedAs index x).elim (pure e)
            (Dictionary.firstPass (S.expanded index s spell) e)).outcome = .ok e' ∧
          d'.nodeId = node ∧ Dictionary.Beside g h d' e' := by
    rintro x hx d e d' ⟨rfl, hde⟩ hstep
    have hname := hheadings x hx
    have hmem : x.1 ∈ S.sections := hsections ▸ List.mem_map_of_mem hx
    have hnode := Dictionary.nodeId_firstPass hstep
    by_cases hobject : x.2 = .object index
    · rw [Section.replacedAs_object hobject]
      obtain ⟨t, heading⟩ := x
      dsimp only at hobject
      subst hobject
      have ht : t = s := hs.alone t hmem (.inl (Section.about_of hname nofun))
      subst ht
      obtain ⟨e', he', hde'⟩ := addObject hgh hh hg hde (S.expanded index t spell) hstep
      exact ⟨e', he', hnode, hde'⟩
    by_cases hlist : x.2 = .nameList index
    · rw [Section.replacedAs_nameList hlist]
      obtain ⟨t, heading⟩ := x
      dsimp only at hlist
      subst hlist
      cases hstep
      exact ⟨e, rfl, rfl, hde⟩
    · rw [Section.replacedAs_other hobject hlist]
      have hother : ¬ x.1.Addresses g.index := by
        intro haddresses
        rw [hindex] at haddresses
        have hx := hs.alone x.1 hmem haddresses
        rw [← hx] at hs
        exact hobject (hs.about.eq hname)
      obtain ⟨e', he', hde'⟩ := hde.firstPass hgh (hs.typesIn_expanded hspell) hname hother hstep
      exact ⟨e', he', hnode, hde'⟩
  obtain ⟨e', he', -, hde'⟩ := Report.foldlM_simulates hsteps ⟨hnode, hde⟩ hrun
  exact ⟨e', he', hde'⟩

/-- The second run adds nothing to the group, as there are no members with sections. -/
theorem secondRun (hs : S.ShortForm index s) (hspell : Spells index spell)
    (hheaded : S.sections.mapM Section.headed = .ok headed) (hgh : g.Paired h)
    (hindex : g.index = index) (hde : Dictionary.Beside g h d e)
    (hrun : (headed.foldlM (Dictionary.secondPass S) d).outcome = .ok d') :
    ∃ e', ((headed.filterMap (Section.replacedAs index)).foldlM
        (Dictionary.secondPass (S.expanded index s spell)) e).outcome = .ok e' ∧
      Dictionary.Beside g h d' e' := by
  obtain ⟨hsections, hheadings⟩ := Section.headings_eq hheaded
  refine Report.foldlM_simulates (R := Dictionary.Beside g h) ?_ hde hrun
  intro x hx d e d' hde hstep
  have hname := hheadings x hx
  have hmem : x.1 ∈ S.sections := hsections ▸ List.mem_map_of_mem hx
  by_cases hobject : x.2 = .object index
  · rw [Section.replacedAs_object hobject]
    obtain ⟨t, heading⟩ := x
    dsimp only at hobject
    subst hobject
    cases hstep
    exact ⟨e, rfl, hde⟩
  by_cases hlist : x.2 = .nameList index
  · rw [Section.replacedAs_nameList hlist]
    obtain ⟨t, heading⟩ := x
    dsimp only at hlist
    subst hlist
    cases hstep
    exact ⟨e, rfl, hde⟩
  · rw [Section.replacedAs_other hobject hlist]
    refine hde.secondPass hgh (hs.typesIn_expanded hspell) (fun k hk => ?_) hstep
    rw [hindex] at hk
    exact hs.memberless x.1 hmem k (Section.about_of (hname.trans (congrArg _ hk)) nofun)

end Sheet.ShortForm

/-! ### The whole data sheet -/

namespace Sheet

variable {S : Sheet} {index : UInt16} {s : Section} {spell : UInt8 → String}
  {node : Option UInt8}

/-- Sections of members have no part in the first run and in the third. -/
theorem skips_of_members {T : Sheet} {vs : List Variable} {headed : List (Section × Heading)}
    (h : List.Forall₂ (fun (x : Section × Heading) v => ∃ k, x.2 = .member index k ∧
      (T.variable x.1 ⟨index, k⟩ node).outcome = .ok v) headed vs) (e : Dictionary) :
    (headed.foldlM (Dictionary.firstPass T) e).outcome = .ok e ∧
      (headed.foldlM Dictionary.thirdPass e).outcome = .ok e := by
  have hmember : ∀ x ∈ headed, ∃ k, x.2 = .member index k := by
    intro x hx
    induction h with
    | nil => cases hx
    | cons hxv _ ih =>
        rcases List.mem_cons.1 hx with rfl | hx
        · obtain ⟨k, hk, -⟩ := hxv
          exact ⟨k, hk⟩
        · exact ih hx
  constructor
  · refine Report.foldlM_skips (fun x hx e => ?_) e
    obtain ⟨t, heading⟩ := x
    obtain ⟨k, hk⟩ := hmember _ hx
    dsimp only at hk
    subst hk
    rfl
  · refine Report.foldlM_skips (fun x hx e => ?_) e
    obtain ⟨t, heading⟩ := x
    obtain ⟨k, hk⟩ := hmember _ hx
    dsimp only at hk
    subst hk
    rfl

/-- The names that lists give are those of their sections with headings. -/
theorem flatMap_namesFor {headed : List (Section × Heading)}
    (h : S.sections.mapM Section.headed = .ok headed) :
    (headed.flatMap fun x => x.1.namesFor index) = S.namesAt index := by
  obtain ⟨hsections, -⟩ := Section.headings_eq h
  unfold namesAt
  rw [← hsections, List.flatMap_map]

/-- The first run leaves the object that the section of the array describes. -/
theorem ShortForm.exists_object (hs : S.ShortForm index s) {headed : List (Section × Heading)}
    (hheaded : S.sections.mapM Section.headed = .ok headed) {d d₁ : Dictionary}
    (hrun : (headed.foldlM (Dictionary.firstPass S) d).outcome = .ok d₁) :
    ∃ o, (S.object s index d.nodeId).outcome = .ok o ∧ d₁.find? index = some o := by
  rcases find?_afterFirst hheaded hrun index with ⟨t, hlast, o, hfound, hgives⟩ | ⟨hnone, -⟩
  · have ht := hs.alone t hlast.mem hlast.holds
    subst ht
    cases hgives with
    | own _ built => exact ⟨o, built, hfound⟩
    | dummy on => cases hs.about.unique on.1
  · exact absurd (.inl hs.about) (hnone s hs.mem)

/-- The three runs over what is left of a data sheet and over the sections of members make up those
over the data sheet with an array written out. -/
theorem dictionary_of_written {headed : List (Section × Heading)} {vs : List Variable}
    {e₁ e₂ e : Dictionary} {g : Group}
    (hheaded : S.sections.mapM Section.headed = .ok headed)
    (hvs : List.Forall₂ ((S.expanded index s spell).Describes node index)
      (s.expansion (S.namesAt index) spell) vs)
    (he₁ : ((headed.filterMap (Section.replacedAs index)).foldlM
      (Dictionary.firstPass (S.expanded index s spell))
        { Dictionary.empty with nodeId := node }).outcome = .ok e₁)
    (he₂ : ((headed.filterMap (Section.replacedAs index)).foldlM
      (Dictionary.secondPass (S.expanded index s spell)) e₁).outcome = .ok e₂)
    (hnode : e₂.nodeId = node) (hg : e₂.find? index = some (.group g))
    (he : ((headed.filterMap (Section.replacedAs index)).foldlM Dictionary.thirdPass
      (e₂.insertMembers index vs)).outcome = .ok e) :
    ((S.expanded index s spell).dictionary node).outcome = .ok e := by
  obtain ⟨written, hwritten, hmembers⟩ := mapM_headed_of_describes hvs
  refine outcome_dictionary_eq_ok_iff.2 ⟨headed.filterMap (Section.replacedAs index) ++ written,
    e₁, e₂.insertMembers index vs, ?_, ?_, ?_, ?_⟩
  · have hreplaced := Section.mapM_headed_replaced index hheaded
    rw [Report.mapM_eq_ok_iff] at hreplaced hwritten ⊢
    unfold expanded
    rw [List.map_append, List.map_append, hreplaced, hwritten]
  · rw [List.foldlM_append, Report.outcome_bind_eq_ok_iff]
    exact ⟨e₁, he₁, (skips_of_members hmembers e₁).1⟩
  · rw [List.foldlM_append, Report.outcome_bind_eq_ok_iff]
    exact ⟨e₂, he₂, secondRun_of_describes hmembers hnode hg⟩
  · rw [List.foldlM_append, Report.outcome_bind_eq_ok_iff]
    exact ⟨e, he, (skips_of_members hmembers e).2⟩

/-- **The data sheet with the array written out gives a dictionary that cannot be told from that of
the short form.** -/
theorem ShortForm.dictionary_expanded (hs : S.ShortForm index s) (hS : S.Proper)
    (hspell : Spells index spell) {d : Dictionary} (hd : (S.dictionary node).outcome = .ok d) :
    ∃ e, ((S.expanded index s spell).dictionary node).outcome = .ok e ∧ d.Indistinct e := by
  obtain ⟨headed, d₁, d₂, hheaded, hd₁, hd₂, hd⟩ := outcome_dictionary_eq_ok_iff.1 hd
  obtain ⟨-, hheadings⟩ := Section.headings_eq hheaded
  obtain ⟨o, ho, hfound⟩ := hs.exists_object hheaded hd₁
  obtain ⟨count, template, hcount, htemplate, rfl⟩ := hs.object_cases ho
  -- the sections of the members, and what they describe
  have hdescribes := describes_expansion (hs.typesIn_expanded hspell) hspell hs.short hcount
    htemplate (S.namesAt index)
  -- the first run
  have hpaired : (((Group.empty .array s.title index).insert count).insert template).Paired
      (Group.empty .array s.title index) := ⟨rfl, rfl⟩
  have hstart : Dictionary.Beside
      (((Group.empty .array s.title index).insert count).insert template)
      (Group.empty .array s.title index) { Dictionary.empty with nodeId := node }
      { Dictionary.empty with nodeId := node } := ⟨Registry.alike_empty, rfl, rfl⟩
  obtain ⟨e₁, he₁, hde₁⟩ := hs.firstRun hspell hheaded hpaired rfl rfl
    (fun o' ho' => Except.ok.inj (ho'.symm.trans ho)) rfl hstart hd₁
  -- the second run, which enters the members on the other side
  obtain ⟨e₂, he₂, hde₂⟩ := hs.secondRun hspell hheaded hpaired rfl hde₁ hd₂
  obtain ⟨g, hg, -⟩ := (sameFrames_afterSecond hd₂).exists_group hfound
  obtain ⟨-, hfound₂⟩ := hde₂.find?_group hpaired hg
  have hnode : e₂.nodeId = node :=
    hde₂.nodeId.symm.trans ((sameFrames_afterSecond hd₂).nodeId.trans (nodeId_afterFirst hd₁))
  have hde₂' := ((hde₂.symm hpaired).insertMembers_left
    (s.membersOf (S.namesAt index) count template)).symm
      (hpaired.symm.foldl_insert_left _)
  -- the third run, which enters the names on this side
  have htemplated : Group.Templated
      (((Group.empty .array s.title index).insert count).insert template) template :=
    ⟨template, (Group.member?_insert _ template _).trans
      (if_pos (typed_variable htemplate).subindex), rfl⟩
  obtain ⟨e, he, hde⟩ := hde₂'.thirdRun hheadings rfl
    (hpaired.symm.foldl_insert_left _).symm htemplated hd
  rw [flatMap_namesFor hheaded] at hde
  have hsame := Group.same_membersOf (Section.typed_countMember hcount).subindex
    (TypesIn.under_of_variable htemplate) (hs.ascends_namesAt hS)
    (fun x hx => one_le_of_mem_namesAt hx) (g := Group.empty .array s.title index) rfl
  exact ⟨e, dictionary_of_written hheaded hdescribes he₁ he₂ hnode hfound₂ he,
    hde.indistinct hsame⟩

end Sheet

end DataSheet
