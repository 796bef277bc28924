/-
**What a section describes.**

A section gives a name, a type, an access, values, a factor, labels and bits, and from these the
steps that read it make a variable or an object.  This module says what each of these steps comes to
without its notices, so that properties of variables and objects can be shown field by field.

Main definitions:

* `Section.title` — the name that a section gives, or else its own;
* `Literal.Omitted` — a literal counts as absent at a type;
* `Section.IsPlain`, `Section.IsGroup`, `Section.KindFault` — a section describes a plain variable,
  or a group, or has a fault in the code of its object type;
* `GroupKind.untemplated` — what is said of a group without a first member.

Main results:

* `Literal.outcome_value`, `Section.outcome_values`, `Sheet.outcome_dataType` — what becomes of the
  literals of values and of types;
* `Section.objectKind_cases` — what kind of object a section describes;
* `Sheet.outcome_variable` — **the outcome of reading a variable**, from those of its fields;
* `Sheet.outcome_object` — **the outcome of reading an object**, for each kind of object;
* `Group.element_template` — what a list of names finds at the first subindex of a group.
-/

import DataSheet.Build.Dictionary
import DataSheet.Proofs.Report

set_option relaxedAutoImplicit false
set_option autoImplicit false

namespace DataSheet

/-! ### Values -/

/-- A literal that counts as absent at a type: any literal at a domain, and a blank one at a type
other than a string. -/
def Literal.Omitted (type : DataType) (literal : String) : Prop :=
  type = .domain ∨ (!type.isString && isBlank literal) = true

instance (type : DataType) (literal : String) : Decidable (Literal.Omitted type literal) :=
  inferInstanceAs (Decidable (_ ∨ _))

theorem Literal.outcome_value (a : Address) (field : Field) (type : DataType)
    (node : Option UInt8) (literal : String) :
    (value a field type node literal).outcome =
      if Omitted type literal then .ok none
      else match parse? type node literal with
        | some v => .ok (some v)
        | none => .error (.badLiteral a field literal) := by
  unfold value
  by_cases hd : type = .domain
  · have homitted : Omitted type literal := .inl hd
    rw [if_pos hd, if_pos homitted]
    rfl
  rw [if_neg hd]
  by_cases hb : (!type.isString && isBlank literal) = true
  · have homitted : Omitted type literal := .inr hb
    rw [if_pos hb, if_pos homitted]
    rfl
  have homitted : ¬ Omitted type literal := not_or.2 ⟨hd, hb⟩
  rw [if_neg hb, if_neg homitted]
  cases parse? type node literal <;> rfl

/-- A section gives four values if it gives a type, and else none. -/
theorem Section.outcome_values (s : Section) (a : Address) (node : Option UInt8) (v : Variable) :
    (s.values a node v).outcome =
      match v.dataType with
      | none => .ok v
      | some type =>
        (s.typedValue a type node .lowLimit).outcome >>= fun low =>
        (s.typedValue a type node .highLimit).outcome >>= fun high =>
        (s.typedValue a type node .defaultValue).outcome >>= fun default =>
        (s.typedValue a type node .parameterValue).outcome >>= fun parameter =>
        .ok { v with
          lowLimit := low
          highLimit := high
          defaultValue := default
          parameterValue := parameter } := by
  unfold values
  cases v.dataType with
  | none =>
      dsimp only
      split <;> rfl
  | some type =>
      dsimp only
      simp only [Report.outcome_bind]
      -- the notice about a domain comes last, and does not change the outcome
      split <;> rfl

/-! ### Variables -/

/-- A section has the type of its code, or else the one to which the definition of the code
leads. -/
theorem Sheet.outcome_dataType (sheet : Sheet) (s : Section) (a : Address) :
    (sheet.dataType s a).outcome =
      match s.value? Field.dataType.key with
      | none => .ok none
      | some literal =>
        match Literal.typeCode? literal.toList with
        | none => .error (.badLiteral a .dataType literal)
        | some code =>
          match (DataType.ofCode? code).or (sheet.definedType? code) with
          | some type => .ok (some type)
          | none => .error (.unknownType a code) := by
  unfold dataType
  cases s.value? Field.dataType.key with
  | none => rfl
  | some literal =>
      dsimp only
      cases Literal.typeCode? literal.toList with
      | none => rfl
      | some code =>
          dsimp only
          cases DataType.ofCode? code with
          | some t => rfl
          | none => cases sheet.definedType? code <;> rfl

/-- The name that a section gives, or else its own. -/
def Section.title (s : Section) : String := (s.value? "ParameterName").getD s.name

@[simp] theorem Section.outcome_parameterName (s : Section) :
    s.parameterName.outcome = .ok s.title := by
  unfold parameterName title
  cases s.value? "ParameterName" <;> rfl

/-- **The outcome of reading a variable.**  Its values are the only part for which the node
counts. -/
theorem Sheet.outcome_variable (sheet : Sheet) (s : Section) (a : Address)
    (node : Option UInt8) :
    (sheet.variable s a node).outcome =
      (sheet.dataType s a).outcome >>= fun type =>
      (s.access a).outcome >>= fun access =>
      (s.values a node { Variable.blank s.title a.index a.subindex with
        dataType := type, access := access }).outcome >>= fun v =>
      (s.factor a).outcome >>= fun factor =>
      (s.valueDescriptions a { v with
        unit := (s.value? "Unit").getD ""
        factor := factor
        description := (s.value? "Description").getD "" }).outcome >>= fun v =>
      (s.bitDefinitions a v).outcome := by
  unfold «variable»
  simp only [Report.outcome_bind, Section.outcome_parameterName]
  change ((sheet.dataType s a).outcome >>= fun type => _) = _
  refine congrArg ((sheet.dataType s a).outcome >>= ·) (funext fun type => ?_)
  cases type with
  | none =>
      simp only [Option.isNone_none, if_true, Report.outcome_bind]
      rfl
  | some t =>
      simp only [Option.isNone_some, Bool.false_eq_true, if_false, Report.outcome_bind]

/-! ### Kinds of objects -/

/-- The section gives the code of an object type. -/
def Section.Code (s : Section) (n : Int) : Prop :=
  ∃ e, s.entry? "ObjectType" = some e ∧ e.integer? = some n

/-- The section describes a plain variable. -/
def Section.IsPlain (s : Section) : Prop := s.entry? "ObjectType" = none ∨ s.Code 2 ∨ s.Code 7

/-- The code of the objects that are groups of a kind. -/
def GroupKind.code : GroupKind → Int
  | record => 8
  | array => 9

/-- The section describes a group. -/
def Section.IsGroup (s : Section) : Prop := ∃ kind : GroupKind, s.Code kind.code

/-- The faults of the code of an object type. -/
inductive Section.KindFault (s : Section) : Fault → Prop
  | notInteger {e : Entry} (given : s.entry? "ObjectType" = some e) (bad : e.integer? = none) :
      KindFault s (.malformed e.line .objectTypeNotInteger)
  | unsupported {e : Entry} {n : Int} (given : s.entry? "ObjectType" = some e)
      (number : e.integer? = some n) (bad : n ∉ [2, 7, 8, 9]) :
      KindFault s (.malformed e.line .objectTypeUnsupported)

section Kinds

variable {s : Section}

theorem Section.Code.unique {n m : Int} (hn : s.Code n) (hm : s.Code m) : n = m := by
  obtain ⟨e, he, hn⟩ := hn
  obtain ⟨e', he', hm⟩ := hm
  cases he.symm.trans he'
  exact Option.some.inj (hn.symm.trans hm)

theorem Section.IsPlain.not_isGroup (h : s.IsPlain) : ¬ s.IsGroup := by
  rintro ⟨kind, hcode⟩
  rcases h with hnone | htwo | hseven
  · obtain ⟨e, he, -⟩ := hcode
    cases hnone.symm.trans he
  · cases kind <;> cases hcode.unique htwo
  · cases kind <;> cases hcode.unique hseven

/-- A code that is supported is no fault. -/
theorem Section.Code.not_kindFault {n : Int} (h : s.Code n) (hn : n ∈ [2, 7, 8, 9]) (f : Fault) :
    ¬ s.KindFault f := by
  obtain ⟨e, he, hnumber⟩ := h
  rintro (⟨given, bad⟩ | ⟨given, number, bad⟩)
  · cases he.symm.trans given
    cases hnumber.symm.trans bad
  · cases he.symm.trans given
    cases hnumber.symm.trans number
    exact bad hn

theorem Section.IsPlain.not_kindFault (h : s.IsPlain) (f : Fault) : ¬ s.KindFault f := by
  rcases h with hnone | htwo | hseven
  · rintro (⟨given, -⟩ | ⟨given, -, -⟩) <;> cases hnone.symm.trans given
  · exact htwo.not_kindFault (by decide) f
  · exact hseven.not_kindFault (by decide) f

theorem Section.IsGroup.not_kindFault (h : s.IsGroup) (f : Fault) : ¬ s.KindFault f := by
  obtain ⟨kind, hcode⟩ := h
  exact hcode.not_kindFault (by cases kind <;> decide) f

/-- **What kind of object a section describes.**  A group may have a short form. -/
theorem Section.objectKind_cases (s : Section) :
    (s.IsPlain ∧ s.objectKind.outcome = .ok .plain) ∨
    (∃ kind : GroupKind, s.Code kind.code ∧ s.objectKind.outcome =
      .ok (if s.has "CompactSubObj" then .compact else .group kind)) ∨
    ∃ f, s.KindFault f ∧ s.objectKind.outcome = .error f := by
  unfold objectKind
  cases he : s.entry? "ObjectType" with
  | none => exact .inl ⟨.inl he, rfl⟩
  | some e =>
      dsimp only
      cases hn : e.integer? with
      | none => exact .inr (.inr ⟨_, .notInteger he hn, rfl⟩)
      | some n =>
          have hcode : s.Code n := ⟨e, he, hn⟩
          dsimp only
          split
          next h =>
            rcases h with rfl | rfl
            · exact .inl ⟨.inr (.inr hcode), rfl⟩
            · exact .inl ⟨.inr (.inl hcode), rfl⟩
          split
          next h =>
            rcases h with rfl | rfl
            · refine .inr (.inl ⟨.record, hcode, ?_⟩)
              split <;> rfl
            · refine .inr (.inl ⟨.array, hcode, ?_⟩)
              split <;> rfl
          next h27 h89 =>
            refine .inr (.inr ⟨_, .unsupported he hn ?_, rfl⟩)
            simp only [List.mem_cons, List.not_mem_nil, or_false]
            omega

/-- A section that is read as an object of a kind describes one. -/
theorem Section.kind_cases {kind : ObjectKind} (h : s.objectKind.outcome = .ok kind) :
    (kind = .plain ∧ s.IsPlain) ∨ s.IsGroup ∧
      (kind = .compact ∧ s.has "CompactSubObj" ∨
        ∃ k : GroupKind, kind = .group k ∧ s.Code k.code ∧ ¬ s.has "CompactSubObj") := by
  rcases s.objectKind_cases with ⟨hplain, hok⟩ | ⟨k, hcode, hok⟩ | ⟨f, -, herror⟩
  · cases h.symm.trans hok
    exact .inl ⟨rfl, hplain⟩
  · refine .inr ⟨⟨k, hcode⟩, ?_⟩
    split at hok
    next hshort =>
      cases h.symm.trans hok
      exact .inl ⟨rfl, hshort⟩
    next hshort =>
      cases h.symm.trans hok
      exact .inr ⟨k, rfl, hcode, hshort⟩
  · cases h.symm.trans herror

end Kinds

/-! ### Objects -/

/-- **The outcome of reading an object**, for each kind that a section may describe. -/
theorem Sheet.outcome_object (sheet : Sheet) (s : Section) (index : UInt16)
    (node : Option UInt8) :
    (sheet.object s index node).outcome =
      s.objectKind.outcome >>= fun
        | .plain => (sheet.variable s ⟨index, 0⟩ node).outcome.map .plain
        | .compact =>
          (s.countMember index).outcome >>= fun count =>
          (sheet.variable s ⟨index, Group.templateSubindex⟩ node).outcome.map fun template =>
            .group (((Group.empty .array s.title index).insert count).insert template)
        | .group kind =>
          .ok (.group { Group.empty kind s.title index with
            description := (s.value? "Description").getD "" }) := by
  unfold object
  rw [Report.outcome_bind]
  refine congrArg (s.objectKind.outcome >>= ·) (funext fun kind => ?_)
  cases kind with
  | plain =>
      dsimp only
      rw [Report.outcome_bind]
      cases (sheet.variable s ⟨index, 0⟩ node).outcome <;> rfl
  | compact =>
      unfold compactArray
      simp only [Report.outcome_bind, Section.outcome_parameterName]
      change (((s.countMember index).outcome >>= fun count => _) >>= fun g => _) = _
      cases (s.countMember index).outcome with
      | error f => rfl
      | ok count =>
          change ((((Group.empty .array s.title index).define count).outcome >>= fun g => _)
            >>= fun g => _) = (_ : Except Fault Object)
          rw [Group.outcome_define]
          change (((sheet.variable s _ node).outcome >>= fun template => _) >>= fun g => _) = _
          cases (sheet.variable s ⟨index, Group.templateSubindex⟩ node).outcome with
          | error f => rfl
          | ok template =>
              change (((_ : Group).define template).outcome >>= fun g => _) = _
              rw [Group.outcome_define]
              rfl
  | group kind =>
      simp only [Report.outcome_bind, Section.outcome_parameterName]
      rfl

/-! ### First members -/

/-- What is said of a group without a first member. -/
def GroupKind.untemplated (index : UInt16) : GroupKind → Fault
  | record => .notFound (.member index 1)
  | array => .badElement index 1 .noTemplate

/-- At the subindex of the template a group has only what it stores there. -/
theorem Group.element_template (g : Group) :
    g.element templateSubindex.toUInt16 =
      match g.template? with
      | some v => .ok (.stored v)
      | none => .error (g.kind.untemplated g.index) := by
  unfold element
  have hnarrow : narrow? templateSubindex.toUInt16 = some templateSubindex := by decide
  rw [hnarrow, Option.bind_some]
  change (match g.template? with | some v => _ | none => _) = _
  cases g.template? with
  | some v => rfl
  | none => cases g.kind <;> rfl

end DataSheet
