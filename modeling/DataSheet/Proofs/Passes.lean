/-
**What each section adds to a dictionary.**

A dictionary is built by running over the sections of a data sheet three times.  This module says,
for each kind of section, what its step makes of a dictionary and when it fails, so that properties
of reading can be shown without looking into the steps again.

Main definitions:

* `Object.attach`, `Dictionary.insertMembers` — an object with one more member, and a dictionary
  with several more at one index;
* `Section.nameCount`, `Section.baudrate` — the count of a list of names, and the bitrate;
* `Object.only`, `Object.named` — the members that a section with a subindex and a list of names
  add to an object.

Main results:

* `Section.baudrate_cases` — which bitrates are accepted;
* `Sheet.object_cases` — what a section of an object describes;
* `Dictionary.outcome_addObject`, `Dictionary.outcome_commission`, `Dictionary.outcome_addDummies`,
  `Dictionary.outcome_addMember`, `Dictionary.outcome_addNames` — **the outcome of each step**;
* `Sheet.outcome_dictionary_eq_ok_iff`, `Dictionary.outcome_ofText_eq_ok_iff` — a data sheet gives a
  dictionary exactly if its headings can be told and its three runs succeed, and a text exactly if
  it is a data sheet that does;
* `Sheet.dictionary_keeps` — **what all that sections can do keeps, reading establishes**.
-/

import DataSheet.Proofs.Described
import DataSheet.Proofs.Registry

set_option relaxedAutoImplicit false
set_option autoImplicit false

namespace DataSheet

/-! ### Entering members -/

/-- The object with one more member, if it is a group. -/
def Object.attach (v : Variable) : Object → Object
  | plain w => plain w
  | group g => group (g.insert v)

theorem Object.keeps_attach (v : Variable) : Registry.Keeps (Object.attach v) := by
  intro o
  cases o <;> exact ⟨rfl, rfl⟩

@[simp] theorem Object.index_attach (o : Object) (v : Variable) :
    (o.attach v).index = o.index :=
  (Object.keeps_attach v o).1

namespace Dictionary

/-- Entering a member at an index changes the object there in place. -/
theorem insertMember_eq_modify (d : Dictionary) (index : UInt16) (v : Variable) :
    d.insertMember index v = d.modify index (Object.attach v) := by
  refine congrArg (d.modify index) (funext fun o => ?_)
  cases o <;> rfl

/-- Enters members one after the other into the group at an index, if there is one. -/
def insertMembers (d : Dictionary) (index : UInt16) (vs : List Variable) : Dictionary :=
  vs.foldl (fun d v => d.insertMember index v) d

/-- Members are entered at their own index only. -/
theorem find?_insertMember (d : Dictionary) (index : UInt16) (v : Variable) (i : UInt16) :
    (d.insertMember index v).find? i =
      (d.find? i).map fun o => if o.index = index then o.attach v else o := by
  rw [insertMember_eq_modify]
  exact Registry.find?_modify (Object.keeps_attach v) i

theorem index_of_find? {d : Dictionary} {index : UInt16} {o : Object}
    (h : d.find? index = some o) : o.index = index := (Registry.mem_of_find? h).2

/-- Entering a member leaves a group at its index. -/
theorem find?_insertMember_group {d : Dictionary} {index : UInt16} {g : Group}
    (h : d.find? index = some (.group g)) (v : Variable) :
    (d.insertMember index v).find? index = some (.group (g.insert v)) := by
  rw [find?_insertMember, h, Option.map_some, if_pos (index_of_find? h)]
  rfl

theorem get_index (d : Dictionary) (index : UInt16) :
    d.get (.index index) =
      match d.find? index with
      | some o => .ok o
      | none => .error (.notFound (.index index)) := rfl

theorem get_index_eq_ok_iff {d : Dictionary} {index : UInt16} {o : Object} :
    d.get (.index index) = .ok o ↔ d.find? index = some o := by
  rw [get_index]
  cases d.find? index <;> simp

end Dictionary

/-! ### What sections say -/

/-- The count that a list of names gives; zero if it gives none. -/
def Section.nameCount (s : Section) : Except Fault UInt8 :=
  match s.entry? "NrOfEntries" with
  | none => .ok 0
  | some e => (e.count .nameCount).outcome

/-- The bitrate that a section gives, if it gives one. -/
def Section.baudrate (s : Section) : Except Fault (Option UInt32) :=
  match s.entry? "Baudrate" with
  | none => .ok none
  | some e =>
    match e.integer? with
    | none => .error (.malformed e.line .baudrate)
    | some n =>
      if 0 ≤ n ∧ n * 1000 < 0x100000000 then .ok (some (UInt32.ofNat (n * 1000).toNat))
      else .error (.malformed e.line .baudrate)

/-- A bitrate that is given is a number of thousands with 32 bits, or else malformed. -/
theorem Section.baudrate_cases {s : Section} {e : Entry} (he : s.entry? "Baudrate" = some e) :
    (∃ (n : Int) (b : UInt32), e.integer? = some n ∧ 1000 * n = b.toNat ∧
      s.baudrate = .ok (some b)) ∨
    (¬ ∃ (n : Int) (b : UInt32), e.integer? = some n ∧ 1000 * n = b.toNat) ∧
      s.baudrate = .error (.malformed e.line .baudrate) := by
  unfold baudrate
  rw [he]
  dsimp only
  cases hn : e.integer? with
  | none =>
      refine .inr ⟨?_, rfl⟩
      rintro ⟨n, b, h, -⟩
      cases h
  | some n =>
      dsimp only
      split
      next hrange =>
        refine .inl ⟨n, UInt32.ofNat (n * 1000).toNat, rfl, ?_, rfl⟩
        have hsize : (n * 1000).toNat < UInt32.size := by
          change (n * 1000).toNat < 0x100000000
          omega
        rw [UInt32.toNat_ofNat_of_lt' hsize]
        omega
      next hrange =>
        refine .inr ⟨?_, rfl⟩
        rintro ⟨m, b, h, hb⟩
        cases h
        have hlt := b.toNat_lt
        omega

namespace Object

/-- A single member, for a group. -/
def only (v : Variable) : Object → List Variable
  | plain _ => []
  | group _ => [v]

/-- The members that a list of names adds to an object, for numbers up to `count`. -/
def named (s : Section) (count : UInt8) : Object → Except Fault (List Variable)
  | plain _ => .ok []
  | group g => (g.element Group.templateSubindex.toUInt16).map fun template =>
    (Dictionary.listedNames s count).map fun listed =>
      Dictionary.namedMember template.get listed.1 listed.2

end Object

/-- What a section of an object describes: a plain variable, an array in short form with its count
and its template, or a group without members. -/
theorem Sheet.object_cases {sheet : Sheet} {s : Section} {index : UInt16} {node : Option UInt8}
    {o : Object} (h : (sheet.object s index node).outcome = .ok o) :
    (∃ v, (sheet.variable s ⟨index, 0⟩ node).outcome = .ok v ∧ o = .plain v) ∨
    (∃ name count template, (s.countMember index).outcome = .ok count ∧
      (sheet.variable s ⟨index, Group.templateSubindex⟩ node).outcome = .ok template ∧
      o = .group (((Group.empty .array name index).insert count).insert template)) ∨
    ∃ kind name description,
      o = .group { Group.empty kind name index with description := description } := by
  rw [outcome_object] at h
  obtain ⟨kind, -, h⟩ := Report.bind_eq_ok_iff.1 h
  cases kind with
  | plain =>
      obtain ⟨v, hv, rfl⟩ := Report.map_eq_ok_iff.1 h
      exact .inl ⟨v, hv, rfl⟩
  | compact =>
      obtain ⟨count, hcount, h⟩ := Report.bind_eq_ok_iff.1 h
      obtain ⟨template, htemplate, rfl⟩ := Report.map_eq_ok_iff.1 h
      exact .inr (.inl ⟨_, count, template, hcount, htemplate, rfl⟩)
  | group kind =>
      cases h
      exact .inr (.inr ⟨kind, _, _, rfl⟩)

/-! ### The steps -/

namespace Dictionary

theorem outcome_addObject (d : Dictionary) (sheet : Sheet) (s : Section) (index : UInt16) :
    (d.addObject sheet s index).outcome = (sheet.object s index d.nodeId).outcome.map d.insert := by
  unfold addObject
  rw [Report.outcome_bind]
  cases (sheet.object s index d.nodeId).outcome with
  | error f => rfl
  | ok o => exact d.outcome_define o

theorem outcome_commission (d : Dictionary) (s : Section) :
    (d.commission s).outcome = s.baudrate.map fun b => { d with bitrate := b.or d.bitrate } := by
  unfold commission Section.baudrate
  cases s.entry? "Baudrate" with
  | none => rfl
  | some e =>
      dsimp only
      cases e.integer? with
      | none => rfl
      | some n =>
          dsimp only
          split <;> rfl

theorem outcome_addDummies (d : Dictionary) (s : Section) :
    (d.addDummies s).outcome =
      .ok ((dummies s).foldl (fun d i => d.insert (.plain (dummy i))) d) := by
  unfold addDummies
  generalize dummies s = l
  induction l generalizing d with
  | nil => rfl
  | cons i l ih =>
      rw [List.foldlM_cons, Report.outcome_bind, outcome_define, List.foldl_cons]
      exact ih _

theorem outcome_defineMember (d : Dictionary) (index : UInt16) (g : Group) (v : Variable) :
    (d.defineMember index g v).outcome = .ok (d.insertMember index v) := by
  unfold defineMember
  rw [Report.outcome_bind, Group.outcome_define]
  rfl

/-- The step of a section with a subindex fails if the section describes no variable, or else if
there is nothing at the index. -/
theorem outcome_addMember (d : Dictionary) (sheet : Sheet) (s : Section) (a : Address) :
    (d.addMember sheet s a).outcome =
      (sheet.variable s a d.nodeId).outcome >>= fun v =>
        (d.get (.index a.index)).map fun o => d.insertMembers a.index (o.only v) := by
  unfold addMember
  rw [Report.outcome_bind]
  cases (sheet.variable s a d.nodeId).outcome with
  | error f => rfl
  | ok v =>
      change (Report.ofExcept (d.get (.index a.index)) >>= _).outcome = Except.map _ (d.get _)
      rw [Report.outcome_bind, Report.outcome_ofExcept]
      cases d.get (.index a.index) with
      | error f => rfl
      | ok o =>
          cases o with
          | plain w => rfl
          | group g =>
              change Report.outcome (d.defineMember a.index g v >>= _) = _
              rw [Report.outcome_bind, outcome_defineMember]
              rfl

/-- Where there is a group, the names of a list are all entered. -/
theorem outcome_foldlM_addName {d : Dictionary} {index : UInt16} {g : Group}
    (h : d.find? index = some (.group g)) (template : Variable) (l : List (UInt8 × String)) :
    (l.foldlM (addName index template) d).outcome =
      .ok (d.insertMembers index (l.map fun x => namedMember template x.1 x.2)) := by
  induction l generalizing d g with
  | nil => rfl
  | cons x l ih =>
      have hstep : (addName index template d x).outcome =
          .ok (d.insertMember index (namedMember template x.1 x.2)) := by
        unfold addName
        rw [h]
        exact outcome_defineMember d index g _
      -- the group is still there, with one more member
      rw [List.foldlM_cons, Report.outcome_bind, hstep]
      exact ih (find?_insertMember_group h _)

/-- The step of a list of names fails if its count is malformed, or else if there is nothing at the
index, or else if there is a group without a first member. -/
theorem outcome_addNames (d : Dictionary) (s : Section) (index : UInt16) :
    (d.addNames s index).outcome =
      s.nameCount >>= fun count =>
        d.get (.index index) >>= fun o => (o.named s count).map (d.insertMembers index) := by
  -- what follows the count, whether it is given or zero
  have hrest : ∀ count : UInt8, Report.outcome (Report.ofExcept (d.get (.index index)) >>= fun
      | .plain _ => do
        Report.note (.notAGroup s.name index)
        pure d
      | .group g => do
        let template ← .ofExcept (g.element Group.templateSubindex.toUInt16)
        (listedNames s count).foldlM (addName index template.get) d) =
      d.get (.index index) >>= fun o => (o.named s count).map (d.insertMembers index) := by
    intro count
    rw [Report.outcome_bind, Report.outcome_ofExcept]
    cases ho : d.get (.index index) with
    | error f => rfl
    | ok o =>
        cases o with
        | plain w => rfl
        | group g =>
            change (Report.ofExcept (g.element _) >>= _).outcome = Except.map _ (Except.map _ _)
            rw [Report.outcome_bind, Report.outcome_ofExcept]
            cases g.element Group.templateSubindex.toUInt16 with
            | error f => rfl
            | ok e => exact outcome_foldlM_addName (get_index_eq_ok_iff.1 ho) e.get _
  unfold addNames Section.nameCount
  cases s.entry? "NrOfEntries" with
  | none => exact hrest 0
  | some e =>
      dsimp only
      rw [Report.outcome_bind]
      cases (e.count .nameCount).outcome with
      | error f => rfl
      | ok count => exact hrest count

/-- What the step of a section with a subindex needs, and what it does. -/
theorem addMember_eq_ok_iff {d d' : Dictionary} {sheet : Sheet} {s : Section} {a : Address} :
    (d.addMember sheet s a).outcome = .ok d' ↔
      ∃ v o, (sheet.variable s a d.nodeId).outcome = .ok v ∧ d.find? a.index = some o ∧
        d.insertMembers a.index (o.only v) = d' := by
  simp only [outcome_addMember, Report.bind_eq_ok_iff, Report.map_eq_ok_iff, get_index_eq_ok_iff]
  constructor
  · rintro ⟨v, hv, o, ho, h⟩
    exact ⟨v, o, hv, ho, h⟩
  · rintro ⟨v, o, hv, ho, h⟩
    exact ⟨v, hv, o, ho, h⟩

/-- What the step of a list of names needs, and what it does. -/
theorem addNames_eq_ok_iff {d d' : Dictionary} {s : Section} {index : UInt16} :
    (d.addNames s index).outcome = .ok d' ↔
      ∃ count o vs, s.nameCount = .ok count ∧ d.find? index = some o ∧
        o.named s count = .ok vs ∧ d.insertMembers index vs = d' := by
  simp only [outcome_addNames, Report.bind_eq_ok_iff, Report.map_eq_ok_iff, get_index_eq_ok_iff]
  constructor
  · rintro ⟨count, hc, o, ho, vs, hvs, h⟩
    exact ⟨count, o, vs, hc, ho, hvs, h⟩
  · rintro ⟨count, o, vs, hc, ho, hvs, h⟩
    exact ⟨count, hc, o, ho, vs, hvs, h⟩

end Dictionary

/-! ### The three runs -/

/-- A data sheet gives a dictionary exactly if its headings can be told and its three runs
succeed. -/
theorem Sheet.outcome_dictionary_eq_ok_iff {sheet : Sheet} {node : Option UInt8}
    {d : Dictionary} :
    (sheet.dictionary node).outcome = .ok d ↔ ∃ headed d₁ d₂,
      sheet.sections.mapM Section.headed = .ok headed ∧
      (headed.foldlM (Dictionary.firstPass sheet)
        { Dictionary.empty with nodeId := node }).outcome = .ok d₁ ∧
      (headed.foldlM (Dictionary.secondPass sheet) d₁).outcome = .ok d₂ ∧
      (headed.foldlM Dictionary.thirdPass d₂).outcome = .ok d := by
  unfold Sheet.dictionary
  simp only [Report.outcome_bind_eq_ok_iff, Report.outcome_ofExcept]
  constructor
  · rintro ⟨headed, h, d₁, h₁, d₂, h₂, h₃⟩
    exact ⟨headed, d₁, d₂, h, h₁, h₂, h₃⟩
  · rintro ⟨headed, d₁, d₂, h, h₁, h₂, h₃⟩
    exact ⟨headed, h, d₁, h₁, d₂, h₂, h₃⟩

/-- A text gives a dictionary exactly if it is a data sheet that gives it. -/
theorem Dictionary.outcome_ofText_eq_ok_iff {text : String} {node : Option UInt8}
    {d : Dictionary} :
    (ofText text node).outcome = .ok d ↔
      ∃ sheet, (Sheet.ofText text).outcome = .ok sheet ∧
        (sheet.dictionary node).outcome = .ok d := by
  unfold ofText
  simp only [Report.outcome_bind_eq_ok_iff]
  constructor
  · rintro ⟨sheet, hsheet, d', hd', -, -, h⟩
    cases h
    exact ⟨sheet, hsheet, hd'⟩
  · rintro ⟨sheet, hsheet, h⟩
    exact ⟨sheet, hsheet, d, h, (), rfl, rfl⟩

/-- The dictionary that a data sheet gives, whatever the faults and notices on the way. -/
theorem Sheet.result?_dictionary (sheet : Sheet) (node : Option UInt8) :
    (sheet.dictionary node).result? =
      (sheet.sections.mapM fun s : Section => s.headed.toOption).bind fun headed =>
        (headed.foldlM (fun d x => (Dictionary.firstPass sheet d x).result?)
          { Dictionary.empty with nodeId := node }).bind fun d =>
          (headed.foldlM (fun d x => (Dictionary.secondPass sheet d x).result?) d).bind fun d =>
            headed.foldlM (fun d x => (Dictionary.thirdPass d x).result?) d := by
  unfold Sheet.dictionary
  simp only [Report.result?_bind, Report.result?_ofExcept, Report.result?_foldlM,
    Report.toOption_mapM]

namespace Dictionary

variable {P : Dictionary → Prop} {sheet : Sheet} {d d' : Dictionary} {headed : Section × Heading}

theorem firstPass_keeps (commission : ∀ d b, P d → P { d with bitrate := b })
    (dummy : ∀ d i, P d → P (d.insert (.plain (dummy i))))
    (object : ∀ d s i o, P d → (sheet.object s i d.nodeId).outcome = .ok o → P (d.insert o))
    (hd : P d) (h : (firstPass sheet d headed).outcome = .ok d') : P d' := by
  obtain ⟨s, heading⟩ := headed
  cases heading with
  | commissioning =>
      change (d.commission s).outcome = _ at h
      rw [outcome_commission, Report.map_eq_ok_iff] at h
      obtain ⟨b, -, rfl⟩ := h
      exact commission d _ hd
  | dummyUsage =>
      change (d.addDummies s).outcome = _ at h
      rw [outcome_addDummies, Except.ok.injEq] at h
      subst h
      generalize dummies s = l
      induction l generalizing d with
      | nil => exact hd
      | cons i l ih => exact ih (dummy d i hd)
  | object index =>
      change (d.addObject sheet s index).outcome = _ at h
      rw [outcome_addObject, Report.map_eq_ok_iff] at h
      obtain ⟨o, ho, rfl⟩ := h
      exact object d s index o hd ho
  | member index subindex | nameList index | other =>
      cases h
      exact hd

theorem secondPass_keeps
    (member : ∀ d s a v o, P d → (sheet.variable s a d.nodeId).outcome = .ok v →
      d.find? a.index = some o → P (d.insertMembers a.index (o.only v)))
    (hd : P d) (h : (secondPass sheet d headed).outcome = .ok d') : P d' := by
  obtain ⟨s, heading⟩ := headed
  cases heading with
  | member index subindex =>
      obtain ⟨v, o, hv, ho, rfl⟩ := addMember_eq_ok_iff.1 h
      exact member d s ⟨index, subindex⟩ v o hd hv ho
  | commissioning | dummyUsage | object index | nameList index | other =>
      cases h
      exact hd

theorem thirdPass_keeps
    (names : ∀ d s i count o vs, P d → d.find? i = some o → o.named s count = .ok vs →
      P (d.insertMembers i vs))
    (hd : P d) (h : (thirdPass d headed).outcome = .ok d') : P d' := by
  obtain ⟨s, heading⟩ := headed
  cases heading with
  | nameList index =>
      obtain ⟨count, o, vs, -, ho, hvs, rfl⟩ := addNames_eq_ok_iff.1 h
      exact names d s index count o vs hd ho hvs
  | commissioning | dummyUsage | object index | member index subindex | other =>
      cases h
      exact hd

@[simp] theorem nodeId_insertMembers (d : Dictionary) (index : UInt16) (vs : List Variable) :
    (d.insertMembers index vs).nodeId = d.nodeId := by
  induction vs generalizing d with
  | nil => rfl
  | cons v vs ih => exact ih (d.insertMember index v)

/-- No step changes the node. -/
theorem nodeId_firstPass (h : (firstPass sheet d headed).outcome = .ok d') :
    d'.nodeId = d.nodeId :=
  firstPass_keeps (P := fun e => e.nodeId = d.nodeId) (fun _ _ he => he) (fun _ _ he => he)
    (fun _ _ _ _ he _ => he) rfl h

theorem nodeId_secondPass (h : (secondPass sheet d headed).outcome = .ok d') :
    d'.nodeId = d.nodeId := by
  refine secondPass_keeps (P := fun e => e.nodeId = d.nodeId) ?_ rfl h
  intro e s a v o he _ _
  exact (nodeId_insertMembers e a.index _).trans he

theorem nodeId_thirdPass (h : (thirdPass d headed).outcome = .ok d') :
    d'.nodeId = d.nodeId := by
  refine thirdPass_keeps (P := fun e => e.nodeId = d.nodeId) ?_ rfl h
  intro e s i count o vs he _ _
  exact (nodeId_insertMembers e i vs).trans he

end Dictionary

/-- **What all that sections can do keeps, reading establishes.**  Sections can set the bitrate,
enter a dummy object or an object of their own, and enter members where there is an object. -/
theorem Sheet.dictionary_keeps {P : Dictionary → Prop} {sheet : Sheet} {node : Option UInt8}
    (start : P { Dictionary.empty with nodeId := node })
    (commission : ∀ d b, P d → P { d with bitrate := b })
    (dummy : ∀ d i, P d → P (d.insert (.plain (Dictionary.dummy i))))
    (object : ∀ d s i o, P d → (sheet.object s i d.nodeId).outcome = .ok o → P (d.insert o))
    (member : ∀ d s a v o, P d → (sheet.variable s a d.nodeId).outcome = .ok v →
      d.find? a.index = some o → P (d.insertMembers a.index (o.only v)))
    (names : ∀ d s i count o vs, P d → d.find? i = some o → o.named s count = .ok vs →
      P (d.insertMembers i vs))
    {d : Dictionary} (h : (sheet.dictionary node).outcome = .ok d) : P d := by
  obtain ⟨headed, d₁, d₂, -, h₁, h₂, h₃⟩ := outcome_dictionary_eq_ok_iff.1 h
  have hd₁ : P d₁ := by
    refine Report.foldlM_keeps (fun d x d' _ hd h => ?_) start h₁
    exact Dictionary.firstPass_keeps commission dummy object hd h
  have hd₂ : P d₂ :=
    Report.foldlM_keeps (fun d x d' _ hd h => Dictionary.secondPass_keeps member hd h) hd₁ h₂
  exact Report.foldlM_keeps (fun d x d' _ hd h => Dictionary.thirdPass_keeps names hd h) hd₂ h₃

end DataSheet
