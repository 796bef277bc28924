/-
**Reading gives well-typed dictionaries.**

Variables come into a dictionary from sections of objects, from arrays in short form, from sections
of members, from lists of names and as dummies, and arrays make further elements from a template.
On each of these ways the values of a variable agree with its type.

Main definitions:

* `Value.Fits` — a value is of the kind that a type asks for, and within its range;
* `Value.Stores` — a value holds a whole number at an integer type;
* `Variable.Typed` — the values that a variable carries fit its type;
* `Group.Typed`, `Object.Typed`, `Dictionary.Typed` — all variables are typed and stand where they
  belong.

Main results:

* `Literal.ofInt?_eq_some_iff` — **which whole numbers are values of an integer type**;
* `Literal.parse?_fits` — what a literal denotes at a type fits it;
* `Sheet.typed_variable` — **a section describes a typed variable**, at the address asked for;
* `Dictionary.Typed.insert`, `Dictionary.Typed.insertMembers` — entering typed objects and members
  leaves a dictionary typed;
* `typed_ofText` — **a text describes a typed dictionary**, made-up elements included.
-/

import DataSheet.Proofs.Passes
import Mathlib.Data.List.ReduceOption

set_option relaxedAutoImplicit false
set_option autoImplicit false

namespace DataSheet

/-! ### Values and types -/

/-- The whole number `n` lies in the range of the integer type `t`. -/
def DataType.Spans (t : DataType) (n : Int) : Prop :=
  ∃ low high, t.range? = some (low, high) ∧ low ≤ n ∧ n ≤ high

theorem DataType.isSigned_of_isUnsigned {t : DataType} (h : t.isUnsigned) : t.isSigned = false := by
  cases t <;> first | rfl | cases h

/-- The value is of the kind that the type `t` asks for, and within its range.  No value fits a
domain. -/
def Value.Fits (t : DataType) : Value → Prop
  | boolean _ => t = .boolean
  | signed n => t.isSigned ∧ t.Spans n.toInt
  | unsigned n => t.isUnsigned ∧ t.Spans n.toNat
  | float x => t.isFloat ∧ x.isFinite
  | text _ => t.isString ∧ t ≠ .domain

/-- The value holds the whole number `n` at the integer type `t`. -/
def Value.Stores (t : DataType) (n : Int) : Value → Prop
  | signed m => t.isSigned ∧ m.toInt = n
  | unsigned m => t.isUnsigned ∧ (m.toNat : Int) = n
  | _ => False

/-- The values that a variable carries. -/
def Variable.carried (v : Variable) : List Value :=
  [v.lowLimit, v.highLimit, v.defaultValue, v.parameterValue].reduceOption

/-- The values that a variable carries fit its type; a variable without a type carries none.  Its
factor is a number, and its bits are bits of a 64-bit word. -/
structure Variable.Typed (v : Variable) : Prop where
  untyped : v.dataType = none → v.carried = []
  fits : ∀ t, v.dataType = some t → ∀ x ∈ v.carried, x.Fits t
  factor : v.factor.isFinite
  bits : ∀ field ∈ v.bitDefinitions, ∀ bit ∈ field.2, bit < 64

/-- All members are typed and stand at the index of the group. -/
def Group.Typed (g : Group) : Prop := ∀ m ∈ g.members.items, m.Typed ∧ m.index = g.index

/-- A plain variable stands at subindex zero. -/
def Object.Typed : Object → Prop
  | plain v => v.Typed ∧ v.subindex = 0
  | group g => g.Typed

/-- All objects are typed. -/
def Dictionary.Typed (d : Dictionary) : Prop := ∀ o ∈ d.objects, o.Typed

/-! ### Literals -/

namespace Literal

/-- A signed type has no values beyond 64 bits. -/
theorem range?_of_isSigned {t : DataType} {low high : Int} (ht : t.isSigned)
    (h : t.range? = some (low, high)) : -0x8000000000000000 ≤ low ∧ high < 0x8000000000000000 := by
  cases t <;> simp_all [DataType.isSigned, DataType.range?] <;> omega

/-- An integer type that is not signed has no negative values, and none beyond 64 bits. -/
theorem range?_of_not_isSigned {t : DataType} {low high : Int} (ht : t.isSigned = false)
    (h : t.range? = some (low, high)) : t.isUnsigned ∧ low = 0 ∧ high < 0x10000000000000000 := by
  cases t <;> simp_all [DataType.isSigned, DataType.isUnsigned, DataType.range?] <;> omega

/-- The range of an integer type lies within the 64 bits in which its values are stored. -/
theorem exists_stores {t : DataType} {n : Int} (h : t.Spans n) : ∃ x : Value, x.Stores t n := by
  obtain ⟨low, high, hr, hlow, hhigh⟩ := h
  cases hs : t.isSigned with
  | true =>
      obtain ⟨hlow', hhigh'⟩ := range?_of_isSigned hs hr
      exact ⟨.signed (Int64.ofInt n), hs, Int64.toInt_ofInt_of_le (by omega) (by omega)⟩
  | false =>
      obtain ⟨hu, rfl, hhigh'⟩ := range?_of_not_isSigned hs hr
      have hsize : n.toNat < UInt64.size := by
        change n.toNat < 2 ^ 64
        omega
      refine ⟨.unsigned (UInt64.ofNat n.toNat), hu, ?_⟩
      rw [UInt64.toNat_ofNat_of_lt' hsize]
      omega

/-- A number is stored in one way only. -/
theorem ofInt?_of_stores {t : DataType} {n : Int} {x : Value} (h : t.Spans n)
    (hx : x.Stores t n) : ofInt? t n = some x := by
  obtain ⟨low, high, hr, hlow, hhigh⟩ := h
  unfold ofInt?
  rw [hr]
  dsimp only
  rw [if_neg (by omega)]
  cases x with
  | signed m =>
      obtain ⟨hs, rfl⟩ := hx
      rw [if_pos hs, Int64.ofInt_toInt]
  | unsigned m =>
      obtain ⟨hu, rfl⟩ := hx
      rw [if_neg (by rw [DataType.isSigned_of_isUnsigned hu]; exact Bool.false_ne_true),
        Int.toNat_natCast, UInt64.ofNat_toNat]
  | boolean b | float y | text u => exact absurd hx id

/-- **A whole number is a value of an integer type exactly if it lies in the type's range**, and
then no bits of it are lost. -/
theorem ofInt?_eq_some_iff {t : DataType} {n : Int} {x : Value} :
    ofInt? t n = some x ↔ t.Spans n ∧ x.Stores t n := by
  refine ⟨fun h => ?_, fun ⟨h, hx⟩ => ofInt?_of_stores h hx⟩
  have hspans : t.Spans n := by
    unfold ofInt? at h
    cases hr : t.range? with
    | none =>
        rw [hr] at h
        cases h
    | some r =>
        rw [hr] at h
        dsimp only at h
        split at h
        · cases h
        · exact ⟨r.1, r.2, hr, by omega, by omega⟩
  -- the number is stored in some way, and the value is that one
  obtain ⟨y, hy⟩ := exists_stores hspans
  cases h.symm.trans (ofInt?_of_stores hspans hy)
  exact ⟨hspans, hy⟩

theorem ofInt?_fits {t : DataType} {n : Int} {x : Value} (h : ofInt? t n = some x) :
    x.Fits t := by
  obtain ⟨hspans, hx⟩ := ofInt?_eq_some_iff.1 h
  cases x with
  | signed m =>
      obtain ⟨hs, rfl⟩ := hx
      exact ⟨hs, hspans⟩
  | unsigned m =>
      obtain ⟨hu, rfl⟩ := hx
      exact ⟨hu, hspans⟩
  | boolean b | float y | text u => exact absurd hx id

theorem float?_isFinite {t : DataType} {s : List Char} {x : Binary64} (h : float? t s = some x) :
    x.isFinite := by
  have hx := (Option.filter_eq_some_iff.1 h).2
  split at hx
  · exact Binary64.isFinite_of_fitsBinary32 hx
  · exact hx

/-- What a literal denotes at a type fits it. -/
theorem parse?_fits {t : DataType} {node : Option UInt8} {literal : String} {x : Value}
    (h : parse? t node literal = some x) : x.Fits t := by
  unfold parse? at h
  split at h
  · cases h
  next hd =>
    split at h
    next hs =>
      cases h
      exact ⟨hs, hd⟩
    next =>
      split at h
      next hb =>
        obtain ⟨b, -, rfl⟩ := Option.map_eq_some_iff.1 h
        exact hb
      next =>
        split at h
        next hf =>
          obtain ⟨y, hy, rfl⟩ := Option.map_eq_some_iff.1 h
          exact ⟨hf, float?_isFinite hy⟩
        next =>
          obtain ⟨n, -, hn⟩ := Option.bind_eq_some_iff.1 h
          exact ofInt?_fits hn

/-- The value of an entry, if there is one, fits the type. -/
theorem value_fits {a : Address} {field : Field} {t : DataType} {node : Option UInt8}
    {literal : String} {x : Option Value}
    (h : (value a field t node literal).outcome = .ok x) : ∀ y ∈ x, y.Fits t := by
  unfold value at h
  split at h
  · cases h
    intro y hy
    cases hy
  next =>
    split at h
    · cases h
      intro y hy
      cases hy
    next =>
      cases hp : parse? t node literal with
      | none =>
          rw [hp] at h
          cases h
      | some z =>
          rw [hp] at h
          cases h
          intro y hy
          cases hy
          exact parse?_fits hp

end Literal

/-! ### Variables from sections -/

/-- A variable without values and bits is typed if its factor is a number. -/
theorem Variable.typed_of_carried_nil {v : Variable} (hc : v.carried = [])
    (hf : v.factor.isFinite) (hb : v.bitDefinitions = []) : v.Typed where
  untyped _ := hc
  fits t _ x hx := by
    rw [hc] at hx
    cases hx
  factor := hf
  bits field h := by
    rw [hb] at h
    cases h

theorem Variable.typed_blank (name : String) (index : UInt16) (subindex : UInt8)
    (type : Option DataType) (access : AccessType) :
    ({ blank name index subindex with dataType := type, access := access } : Variable).Typed :=
  typed_of_carried_nil rfl rfl rfl

/-- The variable stands at an address and is typed. -/
structure Variable.TypedAt (v : Variable) (a : Address) : Prop where
  typed : v.Typed
  index : v.index = a.index
  subindex : v.subindex = a.subindex

theorem Section.typedValue_fits {s : Section} {a : Address} {t : DataType} {node : Option UInt8}
    {field : Field} {x : Option Value} (h : (s.typedValue a t node field).outcome = .ok x) :
    ∀ y ∈ x, y.Fits t := by
  unfold typedValue at h
  split at h
  · cases h
    intro y hy
    cases hy
  · exact Literal.value_fits h

/-- Values that a section gives fit the type of the variable that gets them. -/
theorem Section.values_typed {s : Section} {a : Address} {node : Option UInt8} {v w : Variable}
    (hv : v.TypedAt a) (h : (s.values a node v).outcome = .ok w) : w.TypedAt a := by
  unfold values at h
  cases ht : v.dataType with
  | none =>
      -- without a type no value is read
      have hw : v = w := by
        rw [ht] at h
        dsimp only at h
        split at h <;> exact Except.ok.inj h
      exact hw ▸ hv
  | some t =>
      rw [ht] at h
      simp only [Report.outcome_bind_eq_ok_iff] at h
      obtain ⟨low, hlow, high, hhigh, default, hdefault, parameter, hparameter, h⟩ := h
      have hw : { v with
          dataType := some t
          lowLimit := low
          highLimit := high
          defaultValue := default
          parameterValue := parameter } = w := by
        split at h <;> exact Except.ok.inj h
      subst hw
      refine ⟨⟨fun hn => ?_, ?_, hv.typed.factor, hv.typed.bits⟩, hv.index, hv.subindex⟩
      · cases hn
      · intro t' ht' x hx
        cases ht'
        have hfits : ∀ o ∈ [low, high, default, parameter], ∀ y ∈ o, y.Fits t := by
          intro o ho
          simp only [List.mem_cons, List.not_mem_nil, or_false] at ho
          rcases ho with rfl | rfl | rfl | rfl
          · exact typedValue_fits hlow
          · exact typedValue_fits hhigh
          · exact typedValue_fits hdefault
          · exact typedValue_fits hparameter
        exact hfits _ (List.reduceOption_mem_iff.1 hx) x rfl

theorem Section.factor_isFinite {s : Section} {a : Address} {x : Binary64}
    (h : (s.factor a).outcome = .ok x) : x.isFinite := by
  unfold factor at h
  split at h
  · cases h
    rfl
  next literal _ =>
    cases hx : (Binary64.ofText? literal.toList).filter Binary64.isFinite with
    | none =>
        rw [hx] at h
        cases h
    | some y =>
        rw [hx] at h
        cases h
        exact (Option.filter_eq_some_iff.1 hx).2

/-- Labels have no influence on types. -/
theorem Section.valueDescriptions_typed {s : Section} {a : Address} {v w : Variable}
    (hv : v.TypedAt a) (h : (s.valueDescriptions a v).outcome = .ok w) : w.TypedAt a := by
  unfold valueDescriptions at h
  refine Report.foldlM_keeps (P := fun v => v.TypedAt a) ?_ hv h
  intro v x w _ hv h
  obtain ⟨raw, e⟩ := x
  dsimp only at h
  split at h
  · cases h
  · cases h
    exact ⟨⟨hv.typed.untyped, hv.typed.fits, hv.typed.factor, hv.typed.bits⟩, hv.index,
      hv.subindex⟩

theorem bit?_lt {s : List Char} {n : UInt8} (h : bit? s = some n) : n < 64 := by
  unfold bit? at h
  obtain ⟨k, hk, rfl⟩ := Option.map_eq_some_iff.1 h
  have hlt : k < 64 := by simpa using (Option.filter_eq_some_iff.1 hk).2
  rw [UInt8.lt_iff_toNat_lt, UInt8.toNat_ofNat_of_lt' (by change k < 256; omega)]
  exact hlt

theorem bits?_lt {literal : String} {bits : List UInt8} (h : bits? literal = some bits) :
    ∀ bit ∈ bits, bit < 64 := by
  unfold bits? at h
  generalize literal.toList.splitOn ',' = parts at h
  induction parts generalizing bits with
  | nil =>
      cases h
      intro bit hbit
      cases hbit
  | cons s parts ih =>
      simp only [List.mapM_cons, Option.bind_eq_bind, Option.bind_eq_some_iff] at h
      obtain ⟨n, hn, ns, hns, h⟩ := h
      cases h
      intro bit hbit
      rcases List.mem_cons.1 hbit with rfl | hbit
      · exact bit?_lt hn
      · exact ih hns bit hbit

/-- Fields of bits keep a variable typed. -/
theorem Section.bitDefinitions_typed {s : Section} {a : Address} {v w : Variable}
    (hv : v.TypedAt a) (h : (s.bitDefinitions a v).outcome = .ok w) : w.TypedAt a := by
  unfold bitDefinitions at h
  refine Report.foldlM_keeps (P := fun v => v.TypedAt a) ?_ hv h
  intro v x w _ hv h
  obtain ⟨field, e⟩ := x
  dsimp only at h
  split at h
  · cases h
  next bits hbits =>
    cases h
    refine ⟨⟨hv.typed.untyped, hv.typed.fits, hv.typed.factor, ?_⟩, hv.index, hv.subindex⟩
    intro f hf
    rcases Ascending.eq_or_mem_of_mem_insert _ _ _ _ hf with rfl | hf
    · exact bits?_lt hbits
    · exact hv.typed.bits f hf

/-- **A section describes a typed variable**, at the address asked for. -/
theorem Sheet.typed_variable {sheet : Sheet} {s : Section} {a : Address} {node : Option UInt8}
    {v : Variable} (h : (sheet.variable s a node).outcome = .ok v) : v.TypedAt a := by
  unfold «variable» at h
  simp only [Report.outcome_bind_eq_ok_iff] at h
  obtain ⟨name, -, type, -, h⟩ := h
  -- a missing type is noted, and the rest is the same with it and without
  have h' : ∃ access, ∃ w, (s.values a node
      { Variable.blank name a.index a.subindex with
        dataType := type, access := access }).outcome = .ok w ∧ ∃ factor,
      (s.factor a).outcome = .ok factor ∧ ∃ w',
      (s.valueDescriptions a { w with
        unit := (s.value? "Unit").getD ""
        factor := factor
        description := (s.value? "Description").getD "" }).outcome = .ok w' ∧
      (s.bitDefinitions a w').outcome = .ok v := by
    split at h <;> simp only [Report.outcome_bind_eq_ok_iff] at h
    · obtain ⟨-, -, access, -, w, hw, factor, hf, w', hw', h⟩ := h
      exact ⟨access, w, hw, factor, hf, w', hw', h⟩
    · obtain ⟨access, -, w, hw, factor, hf, w', hw', h⟩ := h
      exact ⟨access, w, hw, factor, hf, w', hw', h⟩
  obtain ⟨access, w, hw, factor, hf, w', hw', hb⟩ := h'
  have hblank := Variable.typed_blank name a.index a.subindex type access
  obtain ⟨hw, hi, hs⟩ := Section.values_typed ⟨hblank, rfl, rfl⟩ hw
  refine Section.bitDefinitions_typed (Section.valueDescriptions_typed ?_ hw') hb
  exact ⟨⟨hw.untyped, hw.fits, Section.factor_isFinite hf, hw.bits⟩, hi, hs⟩

/-! ### Groups -/

namespace Group

theorem typed_empty (kind : GroupKind) (name : String) (index : UInt16) :
    (empty kind name index).Typed := by
  intro m hm
  cases hm

theorem Typed.insert {g : Group} (hg : g.Typed) {v : Variable} (hv : v.Typed)
    (hi : v.index = g.index) : (g.insert v).Typed := by
  intro m hm
  rcases Ascending.eq_or_mem_of_mem_insert _ _ _ _ hm with rfl | hm
  · exact ⟨hv, hi⟩
  · exact hg m hm

theorem Typed.member {g : Group} (hg : g.Typed) {s : UInt8} {v : Variable}
    (h : g.member? s = some v) : v.Typed ∧ v.index = g.index :=
  hg v (Registry.mem_of_find? h).1

end Group

/-- An element made from a typed template is typed. -/
theorem Variable.Typed.element {v : Variable} (hv : v.Typed) (s : UInt8) :
    (v.element s).Typed := by
  have hsub : ∀ x ∈ (v.element s).carried, x ∈ v.carried := by
    intro x hx
    rw [carried, List.reduceOption_mem_iff] at hx ⊢
    simp only [Variable.element, List.mem_cons, List.not_mem_nil, or_false] at hx ⊢
    rcases hx with hx | hx | hx | hx
    · exact .inl hx
    · exact .inr (.inl hx)
    · exact .inr (.inr (.inl hx))
    · cases hx
  refine ⟨fun hn => ?_, fun t ht x hx => hv.fits t ht x (hsub x hx), hv.factor, hv.bits⟩
  rw [List.eq_nil_iff_forall_not_mem]
  intro x hx
  have := hsub x hx
  rw [hv.untyped hn] at this
  cases this

/-- What stands at a subindex of a typed group is typed, made-up elements included. -/
theorem Group.Typed.element {g : Group} (hg : g.Typed) {subindex : UInt16} {e : Element}
    (h : g.element subindex = .ok e) : e.get.Typed ∧ e.get.index = g.index := by
  unfold Group.element at h
  split at h
  next v hv =>
    obtain ⟨s, -, hs⟩ := Option.bind_eq_some_iff.1 hv
    cases h
    exact hg.member hs
  next =>
    split at h
    · cases h
    next =>
      split at h
      · cases h
      next s _ =>
        split at h
        · cases h
        next =>
          split at h
          · cases h
          next t ht =>
            cases h
            obtain ⟨htyped, hi⟩ := hg.member ht
            exact ⟨htyped.element s, hi⟩

/-! ### Objects from sections -/

theorem Section.typed_countMember {s : Section} {index : UInt16} {v : Variable}
    (h : (s.countMember index).outcome = .ok v) : v.TypedAt ⟨index, 0⟩ := by
  unfold countMember at h
  cases he : s.entry? "CompactSubObj" with
  | none =>
      rw [he] at h
      cases h
      exact ⟨Variable.typed_blank _ _ _ _ _, rfl, rfl⟩
  | some e =>
      rw [he] at h
      dsimp only at h
      rw [Report.outcome_bind_eq_ok_iff] at h
      obtain ⟨n, -, h⟩ := h
      cases h
      refine ⟨⟨fun hn => ?_, ?_, rfl, ?_⟩, rfl, rfl⟩
      · cases hn
      · intro t ht x hx
        cases ht
        rw [List.mem_singleton.1 hx]
        have := n.toNat_lt
        refine ⟨rfl, 0, 0xFF, rfl, ?_⟩
        rw [UInt8.toNat_toUInt64]
        omega
      · intro field hfield
        cases hfield

/-- A section describes a typed object. -/
theorem Sheet.typed_object {sheet : Sheet} {s : Section} {index : UInt16} {node : Option UInt8}
    {o : Object} (h : (sheet.object s index node).outcome = .ok o) : o.Typed := by
  rcases object_cases h with ⟨v, hv, rfl⟩ | ⟨name, count, template, hcount, htemplate, rfl⟩ |
    ⟨kind, name, description, rfl⟩
  · have hv := typed_variable hv
    exact ⟨hv.typed, hv.subindex⟩
  · have hc := Section.typed_countMember hcount
    have ht := typed_variable htemplate
    have hempty := Group.typed_empty .array name index
    exact (hempty.insert hc.typed hc.index).insert ht.typed ht.index
  · intro m hm
    cases hm

/-- A section describes an object at the index asked for. -/
theorem Sheet.index_object {sheet : Sheet} {s : Section} {index : UInt16} {node : Option UInt8}
    {o : Object} (h : (sheet.object s index node).outcome = .ok o) : o.index = index := by
  rcases object_cases h with ⟨v, hv, rfl⟩ | ⟨name, count, template, -, -, rfl⟩ |
    ⟨kind, name, description, rfl⟩
  · exact (typed_variable hv).index
  · rfl
  · rfl

theorem Object.typed_dummy (i : Nat) : (Object.plain (Dictionary.dummy i)).Typed :=
  ⟨Variable.typed_blank _ _ _ _ _, rfl⟩

/-! ### Dictionaries -/

namespace Dictionary

theorem Typed.insert {d : Dictionary} (hd : d.Typed) {o : Object} (ho : o.Typed) :
    (d.insert o).Typed := by
  intro p hp
  rcases Ascending.eq_or_mem_of_mem_insert _ _ _ _ hp with rfl | hp
  · exact ho
  · exact hd p hp

theorem Typed.find? {d : Dictionary} (hd : d.Typed) {index : UInt16} {o : Object}
    (h : d.find? index = some o) : o.Typed :=
  hd o (Registry.mem_of_find? h).1

/-- A typed member may be entered at its own index. -/
theorem Typed.insertMember {d : Dictionary} (hd : d.Typed) {v : Variable} (hv : v.Typed) :
    (d.insertMember v.index v).Typed := by
  intro p hp
  rw [insertMember_eq_modify] at hp
  obtain ⟨o, ho, rfl⟩ := Registry.mem_items_modify.1 hp
  by_cases hk : Registered.key o = v.index
  · rw [if_pos hk]
    cases o with
    | plain w => exact hd _ ho
    | group g => exact Group.Typed.insert (hd _ ho) hv hk.symm
  · rw [if_neg hk]
    exact hd o ho

theorem Typed.insertMembers {d : Dictionary} (hd : d.Typed) {index : UInt16}
    {vs : List Variable} (hvs : ∀ v ∈ vs, v.Typed ∧ v.index = index) :
    (d.insertMembers index vs).Typed := by
  induction vs generalizing d with
  | nil => exact hd
  | cons v vs ih =>
      obtain ⟨hv, rfl⟩ := hvs v List.mem_cons_self
      exact ih (hd.insertMember hv) fun w hw => hvs w (List.mem_cons_of_mem v hw)

theorem typed_only {o : Object} {index : UInt16} {v : Variable} (hv : v.Typed)
    (hi : v.index = index) : ∀ w ∈ o.only v, w.Typed ∧ w.index = index := by
  intro w hw
  cases o with
  | plain u => cases hw
  | group g =>
      rw [List.mem_singleton.1 hw]
      exact ⟨hv, hi⟩

/-- What a list of names adds to a typed object is typed. -/
theorem typed_named {o : Object} (ho : o.Typed) {s : Section} {count : UInt8}
    {vs : List Variable} (h : o.named s count = .ok vs) :
    ∀ v ∈ vs, v.Typed ∧ v.index = o.index := by
  intro v hv
  cases o with
  | plain u =>
      cases h
      cases hv
  | group g =>
      obtain ⟨template, htemplate, rfl⟩ := Report.map_eq_ok_iff.1 h
      obtain ⟨x, -, rfl⟩ := List.mem_map.1 hv
      obtain ⟨ht, hi⟩ := Group.Typed.element ho htemplate
      exact ⟨⟨ht.untyped, ht.fits, ht.factor, ht.bits⟩, hi⟩

/-- A data sheet describes a typed dictionary. -/
theorem typed_ofSheet {sheet : Sheet} {node : Option UInt8} {d : Dictionary}
    (h : (sheet.dictionary node).outcome = .ok d) : d.Typed := by
  refine Sheet.dictionary_keeps ?_ ?_ ?_ ?_ ?_ ?_ h
  · intro o ho
    cases ho
  · intro d b hd
    exact hd
  · intro d i hd
    exact hd.insert (Object.typed_dummy i)
  · intro d s i o hd ho
    exact hd.insert (Sheet.typed_object ho)
  · intro d s a v o hd hv _
    have hv := Sheet.typed_variable hv
    exact hd.insertMembers (typed_only hv.typed hv.index)
  · intro d s i count o vs hd ho hvs
    refine hd.insertMembers ?_
    rw [← index_of_find? ho]
    exact typed_named (hd.find? ho) hvs

/-- What stands at an index and a subindex of a typed dictionary is typed. -/
theorem Typed.element {d : Dictionary} (hd : d.Typed) {index subindex : UInt16} {e : Element}
    (h : d.element index subindex = .ok e) : e.get.Typed ∧ e.get.index = index := by
  obtain ⟨o, ho, h⟩ := Report.bind_eq_ok_iff.1 h
  have ho := get_index_eq_ok_iff.1 ho
  have hi := index_of_find? ho
  cases o with
  | plain v =>
      dsimp only at h
      split at h
      · cases h
        exact ⟨(hd.find? ho).1, hi⟩
      · cases h
  | group g =>
      obtain ⟨htyped, hindex⟩ := Group.Typed.element (hd.find? ho) h
      exact ⟨htyped, hindex.trans hi⟩

end Dictionary

/-- **A text describes a typed dictionary.**  So are the elements that its arrays make from their
templates. -/
theorem typed_ofText {text : String} {node : Option UInt8} {d : Dictionary}
    (h : (Dictionary.ofText text node).outcome = .ok d) :
    d.Typed ∧ ∀ index subindex e, d.element index subindex = .ok e →
      e.get.Typed ∧ e.get.index = index := by
  have hd : d.Typed := by
    unfold Dictionary.ofText at h
    simp only [Report.outcome_bind_eq_ok_iff] at h
    obtain ⟨sheet, -, d', hd', -, -, h⟩ := h
    cases h
    exact Dictionary.typed_ofSheet hd'
  exact ⟨hd, fun index subindex e he => hd.element he⟩

/-- An array in short form, whose third element is made from its template. -/
theorem typed_ofText_shortForm : ∃ d e,
    (Dictionary.ofText "[2000]\nObjectType=8\nCompactSubObj=3\nDataType=2\nDefaultValue=-7"
      none).outcome = .ok d ∧
    d.element 0x2000 3 = .ok e ∧ d.Typed ∧ e.get.Typed ∧ e.get.index = 0x2000 := by
  have hok : ((Dictionary.ofText
      "[2000]\nObjectType=8\nCompactSubObj=3\nDataType=2\nDefaultValue=-7" none).outcome >>=
        fun d => d.element 0x2000 3).toOption.isSome := by
    decide +kernel
  obtain ⟨e, he⟩ := Option.isSome_iff_exists.1 hok
  obtain ⟨d, hd, he⟩ := Report.bind_eq_ok_iff.1 (Report.toOption_eq_some_iff.1 he)
  obtain ⟨htyped, helement⟩ := typed_ofText hd
  obtain ⟨hfits, hindex⟩ := helement _ _ _ he
  exact ⟨d, e, hd, he, htyped, hfits, hindex⟩

end DataSheet
