/-
**The dump of a dictionary tells all of it.**

Whatever is kept of an object or a variable has its place in the dump, so that a dictionary can be
told from its dump but for the memory to which of several objects a name led.  This needs the
numbers in it to be numbers of the format, as those that are read from a text are.

Main definitions:

* `Value.Exact`, `Variable.Exact` — the numbers are finite ones of the format;
* `Object.variables` — a plain variable, or the members of a group;
* `Object.SameContent`, `Dictionary.SameContent` — agreement in all that is kept.

Main results:

* `Variable.json_injective` — a variable is told by its JSON value;
* `Object.json_eq_iff`, `Dictionary.json_eq_iff` — objects and dictionaries are, up to the memory of
  names;
* `Dictionary.forall_variables_ofText` — **what holds however a variable comes about, holds of all
  variables that are read**;
* `dumps_tell_apart` — **two texts give one dump exactly if what they describe is the same**.
-/

import DataSheet.Json.Dump
import DataSheet.Proofs.Defaults
import DataSheet.Proofs.Printed
import DataSheet.Proofs.Provenance
import Mathlib.Data.List.Forall2

set_option relaxedAutoImplicit false
set_option autoImplicit false

namespace DataSheet

open Json (Printable)

/-! ### Parts of variables -/

theorem DataType.jsonName_injective {t u : DataType} (h : t.jsonName = u.jsonName) : t = u := by
  -- a type is found again by its name
  have hfound : ∀ t : DataType, all.find? (fun u => u.jsonName = t.jsonName) = some t := by
    intro t
    cases t <;> decide
  have ht := hfound t
  rw [h, hfound u] at ht
  exact (Option.some.inj ht).symm

theorem AccessType.jsonName_injective {a b : AccessType} (h : a.jsonName = b.jsonName) : a = b := by
  cases a <;> cases b <;> first | rfl | exact absurd h (by decide)

theorem GroupKind.jsonName_injective {k l : GroupKind} (h : k.jsonName = l.jsonName) : k = l := by
  cases k <;> cases l <;> first | rfl | exact absurd h (by decide)

namespace Json

theorem ofOption_injective {α : Type} {f : α → Json} (hf : ∀ {a b}, f a = f b → a = b)
    (hnull : ∀ a, f a ≠ .null) {o p : Option α} (h : ofOption f o = ofOption f p) : o = p := by
  cases o with
  | none =>
      cases p with
      | none => rfl
      | some b => exact absurd h.symm (hnull b)
  | some a =>
      cases p with
      | none => exact absurd h (hnull a)
      | some b => exact congrArg some (hf h)

theorem int_natCast_injective {n m : Nat} (h : Json.int n = .int m) : n = m :=
  Int.ofNat.inj (Json.int.inj h)

theorem intKey_injective {n m : Int} (h : intKey n = intKey m) : n = m :=
  intText_injective (String.ofList_injective h)

/-- An object with one member is told by the key and the value. -/
theorem object_single_inj {k l : String} {a b : Json}
    (h : Json.object [(k, a)] = .object [(l, b)]) : k = l ∧ a = b :=
  Prod.mk.inj (List.cons.inj (Json.object.inj h)).1

end Json

/-- A value is told by the name of its kind and by what it holds. -/
theorem Value.json_injective {x y : Value} (h : x.json = y.json) : x = y := by
  cases x with
  | boolean b =>
      cases y with
      | boolean c => exact congrArg boolean (Json.bool.inj (Json.object_single_inj h).2)
      | _ => exact absurd (Json.object_single_inj h).1 (by decide)
  | signed n =>
      cases y with
      | signed m =>
          have hnumber := Json.int.inj (Json.object_single_inj h).2
          exact congrArg signed (Int64.toInt_inj.1 hnumber)
      | _ => exact absurd (Json.object_single_inj h).1 (by decide)
  | unsigned n =>
      cases y with
      | unsigned m =>
          have hnumber := Json.int_natCast_injective (Json.object_single_inj h).2
          exact congrArg unsigned (UInt64.toNat.inj hnumber)
      | _ => exact absurd (Json.object_single_inj h).1 (by decide)
  | float u =>
      cases y with
      | float t => exact congrArg float (Json.real.inj (Json.object_single_inj h).2)
      | _ => exact absurd (Json.object_single_inj h).1 (by decide)
  | text s =>
      cases y with
      | text t => exact congrArg text (Json.string.inj (Json.object_single_inj h).2)
      | _ => exact absurd (Json.object_single_inj h).1 (by decide)

theorem Value.json_ne_null (x : Value) : x.json ≠ .null := by
  cases x <;> nofun

/-! ### Variables, objects and dictionaries -/

/-- The labels of raw values are told by their keys, which are numbers. -/
theorem labels_injective {l m : List (Int64 × String)}
    (h : l.map (fun e => (Json.intKey e.1.toInt, Json.string e.2)) =
      m.map fun e => (Json.intKey e.1.toInt, Json.string e.2)) : l = m := by
  refine List.map_injective_iff.2 (fun a b hab => ?_) h
  obtain ⟨hkey, hlabel⟩ := Prod.mk.inj hab
  exact Prod.ext (Int64.toInt_inj.1 (Json.intKey_injective hkey)) (Json.string.inj hlabel)

/-- Fields of bits are told by their names. -/
theorem bitFields_injective {l m : List (String × List UInt8)}
    (h : l.map (fun e => (e.1, Json.array (e.2.map fun b => .int b.toNat))) =
      m.map fun e => (e.1, Json.array (e.2.map fun b => .int b.toNat))) : l = m := by
  refine List.map_injective_iff.2 (fun a b hab => ?_) h
  obtain ⟨hname, hbits⟩ := Prod.mk.inj hab
  refine Prod.ext hname (List.map_injective_iff.2 (fun n m hnm => ?_) (Json.array.inj hbits))
  exact UInt8.toNat.inj (Json.int_natCast_injective hnm)

/-- **A variable is told by its JSON value.** -/
theorem Variable.json_injective {v w : Variable} (h : v.json = w.json) : v = w := by
  have hvalue : ∀ {o p : Option Value}, Json.ofOption Value.json o = Json.ofOption Value.json p →
      o = p := Json.ofOption_injective Value.json_injective Value.json_ne_null
  have htypes : ∀ {o p : Option DataType}, Json.ofOption (fun t => .string t.jsonName) o =
      Json.ofOption (fun t => .string t.jsonName) p → o = p :=
    Json.ofOption_injective (fun h => DataType.jsonName_injective (Json.string.inj h)) nofun
  simp only [json, Json.object.injEq, List.cons.injEq, Prod.mk.injEq, true_and, and_true,
    Json.string.injEq, Json.real.injEq] at h
  obtain ⟨hindex, hsubindex, hname, htype, hunit, hfactor, hlow, hhigh, hdefault, hparameter,
    haccess, hdescription, hlabels, hbits⟩ := h
  have hindex := UInt16.toNat.inj (Json.int_natCast_injective hindex)
  have hsubindex := UInt8.toNat.inj (Json.int_natCast_injective hsubindex)
  cases v
  cases w
  simp only [Variable.mk.injEq]
  exact ⟨hindex, hsubindex, hname, htypes htype, hunit, hfactor, hvalue hlow, hvalue hhigh,
    hvalue hdefault, hvalue hparameter, AccessType.jsonName_injective haccess, hdescription,
    labels_injective hlabels, bitFields_injective hbits⟩

/-- The groups agree in all that they keep but for the memory of names: their members are the same,
one by one. -/
structure Group.SameContent (g h : Group) : Prop where
  kind : g.kind = h.kind
  index : g.index = h.index
  name : g.name = h.name
  description : g.description = h.description
  members : g.members.items = h.members.items

/-- The objects are the same variable, or groups that agree. -/
inductive Object.SameContent : Object → Object → Prop
  | plain (v : Variable) : SameContent (plain v) (plain v)
  | group {g h : Group} (same : g.SameContent h) : SameContent (group g) (group h)

/-- The dictionaries agree, object by object. -/
structure Dictionary.SameContent (d e : Dictionary) : Prop where
  bitrate : d.bitrate = e.bitrate
  nodeId : d.nodeId = e.nodeId
  objects : List.Forall₂ Object.SameContent d.objects e.objects

theorem Group.json_eq_iff {g h : Group} :
    g.kind = h.kind ∧ g.json = h.json ↔ g.SameContent h := by
  simp only [json, Json.object.injEq, List.cons.injEq, Prod.mk.injEq, true_and, and_true,
    Json.string.injEq]
  constructor
  · rintro ⟨hkind, hindex, hname, hdescription, hmembers⟩
    refine ⟨hkind, UInt16.toNat.inj (Json.int_natCast_injective hindex), hname, hdescription, ?_⟩
    exact List.map_injective_iff.2
      (fun v w hvw => Variable.json_injective (Prod.mk.inj hvw).2) hmembers
  · rintro ⟨hkind, hindex, hname, hdescription, hmembers⟩
    rw [hindex, hname, hdescription, hmembers]
    exact ⟨hkind, rfl, rfl, rfl, rfl⟩

/-- **An object is told by its JSON value**, but for the memory of names. -/
theorem Object.json_eq_iff {o p : Object} : o.json = p.json ↔ o.SameContent p := by
  constructor
  · intro h
    cases o with
    | plain v =>
        cases p with
        | plain w =>
            cases Variable.json_injective (Json.object_single_inj h).2
            exact .plain v
        | group g =>
            have hkey := (Json.object_single_inj h).1
            cases hk : g.kind <;> rw [hk] at hkey <;> exact absurd hkey (by decide)
    | group g =>
        cases p with
        | plain w =>
            have hkey := (Json.object_single_inj h).1
            cases hk : g.kind <;> rw [hk] at hkey <;> exact absurd hkey (by decide)
        | group g' =>
            obtain ⟨hkind, hjson⟩ := Json.object_single_inj h
            exact .group (Group.json_eq_iff.1 ⟨GroupKind.jsonName_injective hkind, hjson⟩)
  · intro h
    cases h with
    | plain v => rfl
    | @group g g' same =>
        obtain ⟨hkind, hjson⟩ := Group.json_eq_iff.2 same
        rw [json, json, hkind, hjson]

theorem Object.SameContent.index {o p : Object} (h : o.SameContent p) : o.index = p.index := by
  cases h with
  | plain v => rfl
  | group same => exact same.index

/-- **A dictionary is told by its JSON value**, but for the memory of names. -/
theorem Dictionary.json_eq_iff {d e : Dictionary} : d.json = e.json ↔ d.SameContent e := by
  have hbitrate : ∀ {o p : Option UInt32}, Json.ofOption (fun b : UInt32 => .int b.toNat) o =
      Json.ofOption (fun b : UInt32 => .int b.toNat) p → o = p :=
    Json.ofOption_injective (fun h => UInt32.toNat.inj (Json.int_natCast_injective h)) nofun
  have hnode : ∀ {o p : Option UInt8}, Json.ofOption (fun n : UInt8 => .int n.toNat) o =
      Json.ofOption (fun n : UInt8 => .int n.toNat) p → o = p :=
    Json.ofOption_injective (fun h => UInt8.toNat.inj (Json.int_natCast_injective h)) nofun
  have hobject : ∀ o p : Object, (Json.natKey o.index.toNat, o.json) =
      (Json.natKey p.index.toNat, p.json) ↔ o.SameContent p := by
    intro o p
    refine ⟨fun h => Object.json_eq_iff.1 (Prod.mk.inj h).2, fun h => ?_⟩
    rw [h.index, Object.json_eq_iff.2 h]
  simp only [json, Json.object.injEq, List.cons.injEq, Prod.mk.injEq, true_and, and_true]
  have hobjects : d.objects.map (fun o => (Json.natKey o.index.toNat, o.json)) =
      e.objects.map (fun o => (Json.natKey o.index.toNat, o.json)) ↔
        List.Forall₂ Object.SameContent d.objects e.objects := by
    rw [← List.forall₂_eq_eq_eq, List.forall₂_map_left_iff, List.forall₂_map_right_iff]
    exact ⟨fun h => h.imp fun o p => (hobject o p).1, fun h => h.imp fun o p => (hobject o p).2⟩
  rw [hobjects]
  constructor
  · rintro ⟨hsame, hb, hn⟩
    exact ⟨hbitrate hb, hnode hn, hsame⟩
  · rintro ⟨hb, hn, hsame⟩
    rw [hb, hn]
    exact ⟨hsame, rfl, rfl⟩

/-! ### Numbers -/

/-- The number is a finite one of the format. -/
inductive Binary64.OfFormat : Binary64 → Prop
  | finite {negative : Bool} {units : Nat} (exact : Exact units) : OfFormat (.finite negative units)

/-- A number that is held is one of the format. -/
def Value.Exact : Value → Prop
  | float x => x.OfFormat
  | _ => True

/-- The numbers of a variable are numbers of the format. -/
structure Variable.Exact (v : Variable) : Prop where
  factor : v.factor.OfFormat
  values : ∀ x ∈ v.carried, x.Exact

theorem Binary64.ofFormat_one : Binary64.one.OfFormat := by
  have hone : ofDecimal false 1 0 = .finite false unitsPerOne := by decide +kernel
  exact .finite (exact_of_ofDecimal hone)

theorem Binary64.OfFormat.of_text {s : List Char} {x : Binary64} (h : ofText? s = some x)
    (hx : x.isFinite) : x.OfFormat := by
  cases x with
  | finite negative units => exact .finite (exact_of_ofText? h)
  | infinite _ | nan => cases hx

/-! ### What can be printed -/

section Printing

theorem printable_single {key : String} {j : Json} (hj : Printable j) :
    Printable (.object [(key, j)]) := by
  refine .object fun m hm => ?_
  rw [List.mem_singleton.1 hm]
  exact hj

theorem Binary64.OfFormat.printable {x : Binary64} (hx : x.OfFormat) : Printable (.real x) := by
  cases hx with
  | finite exact => exact .real exact

theorem Value.Exact.printable {x : Value} (hx : x.Exact) : Printable x.json := by
  cases x with
  | boolean b => exact printable_single (.bool b)
  | signed n => exact printable_single (.int n.toInt)
  | unsigned n => exact printable_single (.int n.toNat)
  | text s => exact printable_single (.string s)
  | float y => exact printable_single (Binary64.OfFormat.printable hx)

theorem printable_ofOption {α : Type} {f : α → Json} {o : Option α} (h : ∀ a ∈ o, Printable (f a)) :
    Printable (Json.ofOption f o) := by
  cases o with
  | none => exact .null
  | some a => exact h a rfl

theorem Variable.Exact.printable {v : Variable} (hv : v.Exact) : Printable v.json := by
  have hvalue : ∀ o ∈ [v.lowLimit, v.highLimit, v.defaultValue, v.parameterValue],
      Printable (Json.ofOption Value.json o) := by
    intro o ho
    refine printable_ofOption fun x hx => (hv.values x ?_).printable
    rw [Option.mem_def.1 hx] at ho
    exact List.reduceOption_mem_iff.2 ho
  have hlabels : Printable (.object (v.valueDescriptions.map fun e =>
      (Json.intKey e.1.toInt, .string e.2))) := by
    refine .object fun m hm => ?_
    obtain ⟨e, -, rfl⟩ := List.mem_map.1 hm
    exact .string e.2
  have hbits : Printable (.object (v.bitDefinitions.map fun e =>
      (e.1, .array (e.2.map fun b => .int b.toNat)))) := by
    refine .object fun m hm => ?_
    obtain ⟨e, -, rfl⟩ := List.mem_map.1 hm
    refine .array fun j hj => ?_
    obtain ⟨b, -, rfl⟩ := List.mem_map.1 hj
    exact .int b.toNat
  simp only [List.forall_mem_cons, List.not_mem_nil, false_implies, implies_true, and_true]
    at hvalue
  obtain ⟨hlow, hhigh, hdefault, hparameter⟩ := hvalue
  refine .object ?_
  simp only [List.forall_mem_cons, List.not_mem_nil, false_implies, implies_true, and_true]
  exact ⟨.int _, .int _, .string _, printable_ofOption fun t _ => .string t.jsonName, .string _,
    hv.factor.printable, hlow, hhigh, hdefault, hparameter, .string _, .string _, hlabels, hbits⟩

/-- The variables of an object: the plain one, or the members. -/
def Object.variables : Object → List Variable
  | plain v => [v]
  | group g => g.members.items

theorem Object.printable_json {o : Object} (ho : ∀ v ∈ o.variables, v.Exact) :
    Printable o.json := by
  cases o with
  | plain v => exact printable_single (ho v (List.mem_singleton_self v)).printable
  | group g =>
      refine printable_single (.object ?_)
      simp only [List.forall_mem_cons, List.not_mem_nil, false_implies, implies_true, and_true]
      refine ⟨.int _, .string _, .string _, .object fun m hm => ?_⟩
      obtain ⟨v, hv, rfl⟩ := List.mem_map.1 hm
      exact (ho v hv).printable

theorem Dictionary.printable_json {d : Dictionary}
    (hd : ∀ o ∈ d.objects, ∀ v ∈ o.variables, v.Exact) : Printable d.json := by
  refine .object ?_
  simp only [List.forall_mem_cons, List.not_mem_nil, false_implies, implies_true, and_true]
  refine ⟨.object fun m hm => ?_, printable_ofOption fun b _ => .int _,
    printable_ofOption fun n _ => .int _⟩
  obtain ⟨o, ho, rfl⟩ := List.mem_map.1 hm
  exact Object.printable_json (hd o ho)

end Printing

/-! ### How variables come about -/

section Variables

variable {P : Variable → Prop}

/-- What holds of the members of a group and of one more, holds after that is entered. -/
theorem Group.forall_insert {g : Group} (hg : ∀ v ∈ g.members.items, P v) {v : Variable}
    (hv : P v) : ∀ w ∈ (g.insert v).members.items, P w := by
  intro w hw
  rcases Ascending.eq_or_mem_of_mem_insert _ _ _ _ hw with rfl | hw
  · exact hv
  · exact hg w hw

namespace Dictionary

theorem forall_variables_insert {d : Dictionary} (hd : ∀ o ∈ d.objects, ∀ v ∈ o.variables, P v)
    {o : Object} (ho : ∀ v ∈ o.variables, P v) :
    ∀ p ∈ (d.insert o).objects, ∀ v ∈ p.variables, P v := by
  intro p hp
  rcases Ascending.eq_or_mem_of_mem_insert _ _ _ _ hp with rfl | hp
  · exact ho
  · exact hd p hp

theorem forall_variables_insertMembers {d : Dictionary}
    (hd : ∀ o ∈ d.objects, ∀ v ∈ o.variables, P v) (index : UInt16) {vs : List Variable}
    (hvs : ∀ v ∈ vs, P v) :
    ∀ o ∈ (d.insertMembers index vs).objects, ∀ v ∈ o.variables, P v := by
  induction vs generalizing d with
  | nil => exact hd
  | cons v vs ih =>
      refine ih (fun p hp => ?_) fun w hw => hvs w (List.mem_cons_of_mem v hw)
      have hp : p ∈ (d.insertMember index v).objects := hp
      rw [insertMember_eq_modify] at hp
      obtain ⟨o, ho, rfl⟩ := Registry.mem_items_modify.1 hp
      split
      · cases o with
        | plain w => exact hd _ ho
        | group g => exact Group.forall_insert (hd _ ho) (hvs v List.mem_cons_self)
      · exact hd o ho

end Dictionary

/-- What holds of all variables that sections describe, and of all counts, holds in the object that
a section describes. -/
theorem Sheet.forall_variables_object {sheet : Sheet} {s : Section} {i : UInt16}
    {node : Option UInt8} {o : Object}
    (described : ∀ a v, (sheet.variable s a node).outcome = .ok v → P v)
    (count : ∀ v, (s.countMember i).outcome = .ok v → P v)
    (h : (sheet.object s i node).outcome = .ok o) : ∀ v ∈ o.variables, P v := by
  rcases object_cases h with ⟨v, hv, rfl⟩ | ⟨name, c, t, hc, ht, rfl⟩ | ⟨kind, name, text, rfl⟩
  · intro w hw
    rw [List.mem_singleton.1 hw]
    exact described _ v hv
  · have hempty : ∀ v ∈ (Group.empty .array name i).members.items, P v := by
      intro v hv
      cases hv
    exact Group.forall_insert (Group.forall_insert hempty (count c hc)) (described _ t ht)
  · intro w hw
    cases hw

theorem Object.forall_only {o : Object} {v : Variable} (hv : P v) : ∀ w ∈ o.only v, P w := by
  intro w hw
  cases o with
  | plain u => cases hw
  | group g =>
      rw [List.mem_singleton.1 hw]
      exact hv

/-- Members with a name from a list are made from the first member of the group. -/
theorem Object.forall_named {o : Object} {s : Section} {count : UInt8} {vs : List Variable}
    (named : ∀ t k name, P t → P (Dictionary.namedMember t k name))
    (ho : ∀ v ∈ o.variables, P v) (h : o.named s count = .ok vs) : ∀ v ∈ vs, P v := by
  intro w hw
  cases o with
  | plain u =>
      cases h
      cases hw
  | group g =>
      obtain ⟨e, he, rfl⟩ := Report.map_eq_ok_iff.1 h
      obtain ⟨x, -, rfl⟩ := List.mem_map.1 hw
      rw [Group.element_template] at he
      cases ht : g.template? with
      | none =>
          rw [ht] at he
          cases he
      | some t =>
          rw [ht] at he
          cases he
          exact named t _ _ (ho t (Registry.mem_of_find? ht).1)

/-- **What holds however a variable comes about, holds of all variables that are read**: of those
that sections describe, of counts and dummies, and of members with a name from a list. -/
theorem Dictionary.forall_variables_ofText
    (described : ∀ (sheet : Sheet) s a node v, (sheet.variable s a node).outcome = .ok v → P v)
    (count : ∀ (s : Section) i v, (s.countMember i).outcome = .ok v → P v)
    (dummy : ∀ i, P (dummy i)) (named : ∀ t k name, P t → P (namedMember t k name))
    {text : String} {node : Option UInt8} {d : Dictionary}
    (h : (ofText text node).outcome = .ok d) : ∀ o ∈ d.objects, ∀ v ∈ o.variables, P v := by
  obtain ⟨sheet, -, h⟩ := outcome_ofText_eq_ok_iff.1 h
  refine Sheet.dictionary_keeps (P := fun d => ∀ o ∈ d.objects, ∀ v ∈ o.variables, P v)
    ?_ ?_ ?_ ?_ ?_ ?_ h
  · intro o ho
    cases ho
  · intro d b hd
    exact hd
  · intro d i hd
    refine forall_variables_insert hd fun v hv => ?_
    rw [List.mem_singleton.1 hv]
    exact dummy i
  · intro d s i o hd ho
    exact forall_variables_insert hd
      (Sheet.forall_variables_object (fun a => described sheet s a _) (count s i) ho)
  · intro d s a v o hd hv _
    exact forall_variables_insertMembers hd a.index
      (Object.forall_only (described sheet s a _ v hv))
  · intro d s i n o vs hd ho hvs
    exact forall_variables_insertMembers hd i
      (Object.forall_named named (hd _ (Registry.mem_of_find? ho).1) hvs)

end Variables

/-! ### Numbers that are read -/

theorem Literal.exact_of_parse? {t : DataType} {node : Option UInt8} {literal : String} {x : Value}
    (h : parse? t node literal = some x) : x.Exact := by
  have hfits := parse?_fits h
  cases x with
  | float y =>
      rw [parse?_of_isFloat hfits.1] at h
      obtain ⟨z, hz, hzy⟩ := Option.map_eq_some_iff.1 h
      cases hzy
      exact .of_text (float?_eq_some_iff.1 hz).1 hfits.2
  | boolean _ | signed _ | unsigned _ | text _ => trivial

namespace Section

variable {s : Section} {a : Address} {node : Option UInt8}

theorem exact_of_typedValue {t : DataType} {field : Field} {o : Option Value}
    (h : (s.typedValue a t node field).outcome = .ok o) : ∀ x ∈ o, x.Exact := by
  rintro x hx
  rw [Option.mem_def.1 hx] at h
  unfold typedValue at h
  cases hl : s.value? field.key with
  | none =>
      rw [hl] at h
      cases h
  | some literal =>
      rw [hl] at h
      exact Literal.exact_of_parse? (Literal.parse?_of_outcome h)

theorem exact_of_values {v w : Variable} (hv : v.Exact) (h : (s.values a node v).outcome = .ok w) :
    w.Exact := by
  rw [outcome_values] at h
  cases ht : v.dataType with
  | none =>
      rw [ht] at h
      cases h
      exact hv
  | some t =>
      rw [ht] at h
      simp only [Report.bind_eq_ok_iff] at h
      obtain ⟨low, hlow, high, hhigh, default, hdefault, parameter, hparameter, h⟩ := h
      cases h
      refine ⟨hv.factor, fun x hx => ?_⟩
      have hx := List.reduceOption_mem_iff.1 hx
      simp only [List.mem_cons, List.not_mem_nil, or_false] at hx
      rcases hx with rfl | rfl | rfl | rfl
      · exact exact_of_typedValue hlow x rfl
      · exact exact_of_typedValue hhigh x rfl
      · exact exact_of_typedValue hdefault x rfl
      · exact exact_of_typedValue hparameter x rfl

theorem ofFormat_factor {x : Binary64} (h : (s.factor a).outcome = .ok x) : x.OfFormat := by
  have hfinite := factor_isFinite h
  unfold factor at h
  cases hl : s.value? Field.factor.key with
  | none =>
      rw [hl] at h
      cases h
      exact Binary64.ofFormat_one
  | some literal =>
      rw [hl] at h
      cases hx : (Binary64.ofText? literal.toList).filter Binary64.isFinite with
      | none =>
          dsimp only at h
          rw [hx] at h
          cases h
      | some y =>
          dsimp only at h
          rw [hx] at h
          cases h
          exact .of_text (Option.filter_eq_some_iff.1 hx).1 hfinite

theorem exact_of_valueDescriptions {v w : Variable} (hv : v.Exact)
    (h : (s.valueDescriptions a v).outcome = .ok w) : w.Exact := by
  unfold valueDescriptions at h
  refine Report.foldlM_keeps (P := Variable.Exact) ?_ hv h
  rintro v ⟨raw, e⟩ w - hv h
  dsimp only at h
  split at h
  · cases h
  · cases h
    exact ⟨hv.factor, hv.values⟩

theorem exact_of_bitDefinitions {v w : Variable} (hv : v.Exact)
    (h : (s.bitDefinitions a v).outcome = .ok w) : w.Exact := by
  unfold bitDefinitions at h
  refine Report.foldlM_keeps (P := Variable.Exact) ?_ hv h
  rintro v ⟨field, e⟩ w - hv h
  dsimp only at h
  split at h
  · cases h
  · cases h
    exact ⟨hv.factor, hv.values⟩

end Section

theorem Variable.exact_blank (name : String) (index : UInt16) (subindex : UInt8)
    (type : Option DataType) (access : AccessType) :
    ({ blank name index subindex with dataType := type, access := access } : Variable).Exact :=
  ⟨Binary64.ofFormat_one, nofun⟩

/-- The numbers that a section gives are numbers of the format. -/
theorem Sheet.exact_variable {sheet : Sheet} {s : Section} {a : Address} {node : Option UInt8}
    {v : Variable} (h : (sheet.variable s a node).outcome = .ok v) : v.Exact := by
  rw [outcome_variable] at h
  simp only [Report.bind_eq_ok_iff] at h
  obtain ⟨type, -, access, -, w, hw, factor, hfactor, w', hw', h⟩ := h
  have hw := Section.exact_of_values (Variable.exact_blank _ _ _ type access) hw
  refine Section.exact_of_bitDefinitions (Section.exact_of_valueDescriptions ?_ hw') h
  exact ⟨Section.ofFormat_factor hfactor, hw.values⟩

theorem Section.exact_countMember {s : Section} {i : UInt16} {v : Variable}
    (h : (s.countMember i).outcome = .ok v) : v.Exact := by
  unfold countMember at h
  cases he : s.entry? "CompactSubObj" with
  | none =>
      rw [he] at h
      cases h
      exact Variable.exact_blank _ _ _ _ _
  | some e =>
      rw [he] at h
      dsimp only at h
      rw [Report.outcome_bind_eq_ok_iff] at h
      obtain ⟨n, -, h⟩ := h
      cases h
      refine ⟨Binary64.ofFormat_one, fun x hx => ?_⟩
      rw [List.mem_singleton.1 hx]
      trivial

/-- All numbers that are read are numbers of the format. -/
theorem Dictionary.exact_ofText {text : String} {node : Option UInt8} {d : Dictionary}
    (h : (ofText text node).outcome = .ok d) : ∀ o ∈ d.objects, ∀ v ∈ o.variables, v.Exact :=
  forall_variables_ofText (P := Variable.Exact) (fun _ _ _ _ _ => Sheet.exact_variable)
    (fun _ _ _ => Section.exact_countMember) (fun _ => Variable.exact_blank _ _ _ _ _)
    (fun _ _ _ ht => ⟨ht.factor, ht.values⟩) h

/-- **Two texts give one dump exactly if what they describe is the same**: the bitrate, the node,
and one by one the objects, with all that is kept of each. -/
theorem dumps_tell_apart {text text' : String} {node node' : Option UInt8} {d d' : Dictionary}
    (h : (Dictionary.ofText text node).outcome = .ok d)
    (h' : (Dictionary.ofText text' node').outcome = .ok d') :
    d.dump = d'.dump ↔ d.SameContent d' := by
  rw [← Dictionary.json_eq_iff]
  refine ⟨fun hdump => ?_, fun hjson => congrArg Json.pretty hjson⟩
  exact Json.pretty_injective (Dictionary.printable_json (Dictionary.exact_ofText h))
    (Dictionary.printable_json (Dictionary.exact_ofText h')) hdump

/-- One text with a name full of quotes, read for two nodes. -/
theorem dumps_tell_apart_nodes : ∃ d d',
    (Dictionary.ofText "[2000]\nParameterName=\"a\", \"b\"" (some 1)).outcome = .ok d ∧
    (Dictionary.ofText "[2000]\nParameterName=\"a\", \"b\"" (some 2)).outcome = .ok d' ∧
    (d.dump = d'.dump ↔ d.SameContent d') ∧ d.dump ≠ d'.dump := by
  obtain ⟨d, hd⟩ := Report.exists_of_isSome
    (r := (Dictionary.ofText "[2000]\nParameterName=\"a\", \"b\"" (some 1)).outcome)
    (by decide +kernel)
  obtain ⟨d', hd'⟩ := Report.exists_of_isSome
    (r := (Dictionary.ofText "[2000]\nParameterName=\"a\", \"b\"" (some 2)).outcome)
    (by decide +kernel)
  have hiff := dumps_tell_apart hd hd'
  refine ⟨d, d', hd, hd', hiff, fun hdump => ?_⟩
  obtain ⟨sheet, -, hsheet⟩ := Dictionary.outcome_ofText_eq_ok_iff.1 hd
  obtain ⟨sheet', -, hsheet'⟩ := Dictionary.outcome_ofText_eq_ok_iff.1 hd'
  have hnode := (hiff.1 hdump).nodeId
  rw [Sheet.nodeId_dictionary hsheet, Sheet.nodeId_dictionary hsheet'] at hnode
  exact absurd hnode (by decide)

end DataSheet
