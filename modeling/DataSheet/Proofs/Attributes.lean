/-
**Sections with the same attributes.**

What a section says of a variable depends on the attributes that it gives, and the name and the
address of the variable on nothing else.  So two sections with the same attributes describe the same
variable, up to its name and its address.

Main definitions:

* `Section.labels`, `Section.bitFields` — the families of entries, as they are read;
* `Section.SameAttributes` — two sections give the same attributes;
* `Section.annotate?` — a variable with the labels and the bits of a section;
* `Variable.under` — a variable under another name at another address.

Main results:

* `Sheet.result?_variable` — the variable that a section describes, whatever faults and notices;
* `Section.SameAttributes.result?_variable` — **sections with the same attributes describe the same
  variable**, each under its name at its address.
-/

import DataSheet.Proofs.Described

set_option relaxedAutoImplicit false
set_option autoImplicit false

namespace DataSheet

/-! ### Attributes -/

namespace Section

/-- The labels that a section gives, each with the raw value that its key denotes. -/
def labels (s : Section) : List (Option Int64 × String) :=
  (s.family (Field.valueDescription.key ++ ".")).map fun x => (rawValue? x.1, x.2.value)

/-- The fields that a section gives, each with the literal of its bits. -/
def bitFields (s : Section) : List (String × String) :=
  (s.family (Field.bitDefinition.key ++ ".")).map fun x => (x.1, x.2.value)

/-- The sections give the same attributes, whatever else they give. -/
structure SameAttributes (s t : Section) : Prop where
  field : ∀ f : Field, t.value? f.key = s.value? f.key
  unit : t.value? "Unit" = s.value? "Unit"
  description : t.value? "Description" = s.value? "Description"
  labels : t.labels = s.labels
  bitFields : t.bitFields = s.bitFields

/-- The variable with the labels and the fields of bits that a section gives. -/
def annotate? (s : Section) (v : Variable) : Option Variable :=
  (s.labels.foldlM (fun v (x : Option Int64 × String) => x.1.map fun n => v.describe n x.2) v).bind
    (s.bitFields.foldlM fun v x => (bits? x.2).map (v.defineBits x.1))

theorem annotate?_eq (s : Section) (a : Address) (v : Variable) :
    s.annotate? v =
      (s.valueDescriptions a v).result?.bind fun v => (s.bitDefinitions a v).result? := by
  unfold annotate? valueDescriptions bitDefinitions labels bitFields
  simp only [Report.result?_foldlM, List.foldlM_map]
  congr 1
  · refine congrArg (fun f => List.foldlM f v _) (funext fun v => funext fun (raw, e) => ?_)
    dsimp only
    cases rawValue? raw <;> rfl
  · funext v
    refine congrArg (fun f => List.foldlM f v _) (funext fun v => funext fun (field, e) => ?_)
    dsimp only
    cases bits? e.value <;> rfl

end Section

/-- The variable that a section describes, whatever the faults and notices on the way. -/
theorem Sheet.result?_variable (sheet : Sheet) (s : Section) (a : Address) (node : Option UInt8) :
    (sheet.variable s a node).result? =
      (sheet.dataType s a).result?.bind fun type =>
      (s.access a).result?.bind fun access =>
      (s.values a node { Variable.blank s.title a.index a.subindex with
        dataType := type, access := access }).result?.bind fun v =>
      (s.factor a).result?.bind fun factor =>
      s.annotate? { v with
        unit := (s.value? "Unit").getD ""
        factor := factor
        description := (s.value? "Description").getD "" } := by
  simp only [Section.annotate?_eq s a]
  unfold Report.result?
  simp only [outcome_variable, Report.toOption_bind]

/-! ### Names and addresses -/

/-- The variable under another name at another address. -/
def Variable.under (v : Variable) (name : String) (a : Address) : Variable :=
  { v with name := name, index := a.index, subindex := a.subindex }

/-- A run whose steps do not look at a change of the start. -/
theorem foldlM_map_start {α β : Type} {f : β → α → Option β} {g : β → β}
    (h : ∀ b a, f (g b) a = (f b a).map g) (l : List α) (b : β) :
    l.foldlM f (g b) = (l.foldlM f b).map g := by
  induction l generalizing b with
  | nil => rfl
  | cons a l ih =>
      rw [List.foldlM_cons, List.foldlM_cons, h]
      cases f b a with
      | none => rfl
      | some c => exact ih c

/-- Labels and bits are entered whatever the name and the address. -/
theorem Section.annotate?_under (s : Section) (v : Variable) (name : String) (a : Address) :
    s.annotate? (v.under name a) = (s.annotate? v).map (Variable.under · name a) := by
  unfold annotate?
  rw [foldlM_map_start (g := (Variable.under · name a)) fun v x => by cases x.1 <;> rfl]
  cases List.foldlM (m := Option) _ v s.labels with
  | none => rfl
  | some w =>
      rw [Option.map_some, Option.bind_some, Option.bind_some,
        foldlM_map_start (g := (Variable.under · name a)) fun v x => by cases bits? x.2 <;> rfl]

namespace Section.SameAttributes

variable {s t : Section}

theorem refl (s : Section) : s.SameAttributes s := ⟨fun _ => rfl, rfl, rfl, rfl, rfl⟩

theorem result?_access (h : s.SameAttributes t) (a b : Address) :
    (t.access b).result? = (s.access a).result? := by
  unfold access
  rw [h.field]
  cases s.value? Field.accessType.key with
  | none => rfl
  | some literal =>
      dsimp only
      cases AccessType.ofText? literal <;> rfl

theorem result?_factor (h : s.SameAttributes t) (a b : Address) :
    (t.factor b).result? = (s.factor a).result? := by
  unfold factor
  rw [h.field]
  cases s.value? Field.factor.key with
  | none => rfl
  | some literal =>
      dsimp only
      cases (Binary64.ofText? literal.toList).filter Binary64.isFinite <;> rfl

theorem result?_typedValue (h : s.SameAttributes t) (a b : Address) (type : DataType)
    (node : Option UInt8) (field : Field) :
    (t.typedValue b type node field).result? = (s.typedValue a type node field).result? := by
  unfold typedValue
  rw [h.field]
  cases s.value? field.key with
  | none => rfl
  | some literal =>
      unfold Report.result?
      simp only [Literal.outcome_value]
      split
      · rfl
      · cases Literal.parse? type node literal <;> rfl

theorem result?_values (h : s.SameAttributes t) (a b : Address) (node : Option UInt8)
    (v : Variable) (name : String) :
    (t.values b node (v.under name b)).result? =
      (s.values a node v).result?.map (Variable.under · name b) := by
  unfold Report.result?
  simp only [outcome_values]
  have htype : (v.under name b).dataType = v.dataType := rfl
  rw [htype]
  cases v.dataType with
  | none => rfl
  | some type =>
      have hvalue := h.result?_typedValue a b type node
      unfold Report.result? at hvalue
      simp only [Report.toOption_bind, hvalue]
      cases (s.typedValue a type node .lowLimit).outcome.toOption with
      | none => rfl
      | some low =>
      cases (s.typedValue a type node .highLimit).outcome.toOption with
      | none => rfl
      | some high =>
      cases (s.typedValue a type node .defaultValue).outcome.toOption with
      | none => rfl
      | some default => cases (s.typedValue a type node .parameterValue).outcome.toOption <;> rfl

/-- **Sections with the same attributes describe the same variable**, each under its name at its
address, if their types are found alike. -/
theorem result?_variable (h : s.SameAttributes t) {S T : Sheet} {a b : Address}
    (htype : (T.dataType t b).result? = (S.dataType s a).result?) (node : Option UInt8) :
    (T.variable t b node).result? =
      (S.variable s a node).result?.map (Variable.under · t.title b) := by
  rw [Sheet.result?_variable, Sheet.result?_variable, htype, h.result?_access a b]
  cases (S.dataType s a).result? with
  | none => rfl
  | some type =>
  cases (s.access a).result? with
  | none => rfl
  | some access =>
  have hvalues := h.result?_values a b node { Variable.blank s.title a.index a.subindex with
    dataType := type, access := access } t.title
  have hstart : Variable.under { Variable.blank s.title a.index a.subindex with
      dataType := type, access := access } t.title b =
      { Variable.blank t.title b.index b.subindex with dataType := type, access := access } := rfl
  rw [hstart] at hvalues
  have hannotate : t.annotate? = s.annotate? := by
    unfold annotate?
    rw [h.labels, h.bitFields]
  simp only [Option.bind_some, hvalues, h.result?_factor a b, h.unit, h.description, hannotate]
  cases (s.values a node { Variable.blank s.title a.index a.subindex with
      dataType := type, access := access }).result? with
  | none => rfl
  | some v =>
  cases (s.factor a).result? with
  | none => rfl
  | some factor => exact s.annotate?_under { v with unit := _, factor := _, description := _ } _ _

end Section.SameAttributes

end DataSheet
