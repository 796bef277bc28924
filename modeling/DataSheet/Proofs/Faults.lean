/-
**The faults of a section that describes a variable.**

A section that is read as a variable may have several faults: a type that is no code or leads to
nothing, an unknown access, values that do not fit the type, and malformed factors, labels or bits.
Reading it fails exactly if there is such a fault, and tells one of them.

Main definitions:

* `FailsFor` — an outcome is a fault of a given kind, or there is none of that kind;
* `Literal.Denotes` — a literal denotes a value at a type;
* `Sheet.Leads`, `Sheet.HasType` — a code, and a section, lead to a type;
* `Sheet.VariableFault` — the faults of a section read as a variable.

Main results:

* `FailsFor.bind`, `FailsFor.mapM`, `failsFor_foldlM` — **faults of steps in a row and of runs**;
* `Literal.isSome_parse?_iff` — a literal is read exactly if it denotes a value;
* `Sheet.failsFor_variable` — **reading a variable fails exactly for its faults**.
-/

import DataSheet.Proofs.Described
import DataSheet.Proofs.Typing

set_option relaxedAutoImplicit false
set_option autoImplicit false

namespace DataSheet

/-! ### Faults of steps and of runs -/

section FailsFor

variable {ν ε α β : Type} {P Q : ε → Prop} {r : Except ε α}

/-- The outcome is a fault with `P`, or it is a value and there is no fault with `P`. -/
def FailsFor (P : ε → Prop) : Except ε α → Prop
  | .ok _ => ∀ e, ¬ P e
  | .error e => P e

/-- A value has no faults. -/
theorem failsFor_ok (a : α) : FailsFor (fun _ : ε => False) (.ok a) := fun _ h => h

theorem FailsFor.congr (h : FailsFor P r) (hPQ : ∀ e, P e ↔ Q e) : FailsFor Q r := by
  cases r with
  | ok a => exact fun e hQ => h e ((hPQ e).2 hQ)
  | error e => exact (hPQ e).1 h

theorem FailsFor.map (h : FailsFor P r) (f : α → β) : FailsFor P (r.map f) := by
  cases r <;> exact h

/-- Two steps in a row fail for the faults of the first and of the second one. -/
theorem FailsFor.bind {k : α → Except ε β} (h : FailsFor P r)
    (hk : ∀ a, r = .ok a → FailsFor Q (k a)) : FailsFor (fun e => P e ∨ Q e) (r >>= k) := by
  cases r with
  | error e => exact .inl h
  | ok a =>
      have hka := hk a rfl
      change FailsFor _ (k a)
      generalize k a = r at hka
      cases r with
      | error e => exact .inr hka
      | ok b => exact fun e hPQ => hPQ.elim (h e) (hka e)

/-- What is read from an optional part fails for the faults of that part, if it is there. -/
theorem FailsFor.of_option {γ : Type} {o : Option γ} {P : γ → ε → Prop}
    (hnone : o = none → FailsFor (fun _ => False) r) (hsome : ∀ c, o = some c → FailsFor (P c) r) :
    FailsFor (fun e => ∃ c, o = some c ∧ P c e) r := by
  cases o with
  | none =>
      refine (hnone rfl).congr fun e => ⟨False.elim, ?_⟩
      rintro ⟨c, h, -⟩
      cases h
  | some c =>
      refine (hsome c rfl).congr fun e => ⟨fun h => ⟨c, rfl, h⟩, ?_⟩
      rintro ⟨c', h, hP⟩
      cases h
      exact hP

theorem FailsFor.mapM {P : α → ε → Prop} {f : α → Except ε β} {l : List α}
    (h : ∀ a ∈ l, FailsFor (P a) (f a)) : FailsFor (fun e => ∃ a ∈ l, P a e) (l.mapM f) := by
  induction l with
  | nil =>
      rintro e ⟨a, ha, -⟩
      cases ha
  | cons a l ih =>
      rw [List.mapM_cons]
      have hrest := ih fun b hb => h b (List.mem_cons_of_mem a hb)
      refine ((h a List.mem_cons_self).bind fun b _ => hrest.map (b :: ·)).congr fun e => ?_
      rw [List.exists_mem_cons_iff]

/-- A run fails for the faults of its items, if they are faults at every state that the run may
reach. -/
theorem failsFor_foldlM {I : β → Prop} {P : α → ε → Prop} {f : β → α → Report ν ε β}
    {l : List α} (step : ∀ a ∈ l, ∀ b, I b → FailsFor (P a) (f b a).outcome)
    (keep : ∀ a ∈ l, ∀ b b', I b → (f b a).outcome = .ok b' → I b') :
    ∀ {b}, I b → FailsFor (fun e => ∃ a ∈ l, P a e) (l.foldlM f b).outcome := by
  induction l with
  | nil =>
      rintro b - e ⟨a, ha, -⟩
      cases ha
  | cons a l ih =>
      intro b hb
      rw [List.foldlM_cons, Report.outcome_bind]
      have hrest : ∀ {c}, (f b a).outcome = .ok c →
          FailsFor (fun e => ∃ a ∈ l, P a e) (l.foldlM f c).outcome := fun hc =>
        ih (fun x hx => step x (List.mem_cons_of_mem a hx))
          (fun x hx => keep x (List.mem_cons_of_mem a hx)) (keep a List.mem_cons_self b _ hb hc)
      refine ((step a List.mem_cons_self b hb).bind fun c hc => hrest hc).congr fun e => ?_
      rw [List.exists_mem_cons_iff]

end FailsFor

/-! ### Literals -/

namespace Literal

/-- A literal denotes a value at a type, for a node: any literal at a string type, a word or zero or
one at the type of truth values, a whole number in the range of an integer type, and a number that
is finite at a floating-point type. -/
inductive Denotes (node : Option UInt8) (literal : String) : DataType → Prop
  | text {t : DataType} (string : t.isString) : Denotes node literal t
  | word (word : Text.lower (Text.trim literal.toList) = "true".toList ∨
      Text.lower (Text.trim literal.toList) = "false".toList) : Denotes node literal .boolean
  | bit {n : Int} (number : integer? node (Text.lower (Text.trim literal.toList)) = some n)
      (bit : n = 0 ∨ n = 1) : Denotes node literal .boolean
  | integer {t : DataType} {n : Int} (number : integer? node literal.toList = some n)
      (range : t.Spans n) : Denotes node literal t
  | real32 {x : Binary64} (number : Binary64.ofText? (Text.trim literal.toList) = some x)
      (fits : x.fitsBinary32) : Denotes node literal .real32
  | real64 {x : Binary64} (number : Binary64.ofText? (Text.trim literal.toList) = some x)
      (finite : x.isFinite) : Denotes node literal .real64

theorem isSome_boolean?_iff {node : Option UInt8} {s : List Char} :
    (boolean? node s).isSome ↔
      (Text.lower (Text.trim s) = "true".toList ∨ Text.lower (Text.trim s) = "false".toList) ∨
        ∃ n, integer? node (Text.lower (Text.trim s)) = some n ∧ (n = 0 ∨ n = 1) := by
  unfold boolean?
  dsimp only
  split
  next h => exact ⟨fun _ => .inl (.inl h), fun _ => rfl⟩
  split
  next h => exact ⟨fun _ => .inl (.inr h), fun _ => rfl⟩
  next ht hf =>
    split
    next h => exact ⟨fun _ => .inr ⟨0, h, .inl rfl⟩, fun _ => rfl⟩
    next h => exact ⟨fun _ => .inr ⟨1, h, .inr rfl⟩, fun _ => rfl⟩
    next h0 h1 =>
      refine ⟨fun h => absurd h Bool.false_ne_true, ?_⟩
      rintro ((h | h) | ⟨n, h, rfl | rfl⟩)
      · exact absurd h ht
      · exact absurd h hf
      · exact absurd h h0
      · exact absurd h h1

theorem isSome_ofInt?_iff {t : DataType} {n : Int} : (ofInt? t n).isSome ↔ t.Spans n := by
  simp only [Option.isSome_iff_exists, ofInt?_eq_some_iff]
  constructor
  · rintro ⟨x, h, -⟩
    exact h
  · intro h
    obtain ⟨x, hx⟩ := exists_stores h
    exact ⟨x, h, hx⟩

theorem isSome_float?_iff {t : DataType} {s : List Char} :
    (float? t s).isSome ↔ ∃ x, Binary64.ofText? (Text.trim s) = some x ∧
      if t = .real32 then x.fitsBinary32 else x.isFinite := by
  unfold float?
  cases Binary64.ofText? (Text.trim s) with
  | none => simp
  | some x => by_cases h : t = .real32 <;> simp [Option.filter, h]

/-- **A literal is read exactly if it denotes a value.** -/
theorem isSome_parse?_iff {t : DataType} (ht : t ≠ .domain) {node : Option UInt8}
    {literal : String} : (parse? t node literal).isSome ↔ Denotes node literal t := by
  have hspans : ∀ {n}, t.range? = none → ¬ t.Spans n := by
    rintro n hr ⟨low, high, h, -⟩
    cases hr.symm.trans h
  unfold parse?
  rw [if_neg ht]
  by_cases hs : t.isString = true
  · rw [if_pos hs]
    exact ⟨fun _ => .text hs, fun _ => rfl⟩
  rw [if_neg hs]
  by_cases hb : t = .boolean
  · subst hb
    rw [if_pos rfl, Option.isSome_map, isSome_boolean?_iff]
    constructor
    · rintro (h | ⟨n, hn, h⟩)
      · exact .word h
      · exact .bit hn h
    · intro h
      cases h with
      | text string => exact absurd string hs
      | word h => exact .inl h
      | bit hn h => exact .inr ⟨_, hn, h⟩
      | integer _ range => exact absurd range (hspans rfl)
  rw [if_neg hb]
  by_cases hf : t.isFloat = true
  · rw [if_pos hf, Option.isSome_map, isSome_float?_iff]
    cases t with
    | real32 =>
        constructor
        · rintro ⟨x, hx, h⟩
          exact .real32 hx h
        · intro h
          cases h with
          | text string => exact absurd string hs
          | integer _ range => exact absurd range (hspans rfl)
          | real32 hx h => exact ⟨_, hx, h⟩
    | real64 =>
        constructor
        · rintro ⟨x, hx, h⟩
          exact .real64 hx h
        · intro h
          cases h with
          | text string => exact absurd string hs
          | integer _ range => exact absurd range (hspans rfl)
          | real64 hx h => exact ⟨_, hx, h⟩
    | _ => cases hf
  · rw [if_neg hf]
    constructor
    · intro h
      obtain ⟨v, hv⟩ := Option.isSome_iff_exists.1 h
      obtain ⟨n, hn, hv⟩ := Option.bind_eq_some_iff.1 hv
      exact .integer hn (isSome_ofInt?_iff.1 (Option.isSome_iff_exists.2 ⟨v, hv⟩))
    · intro h
      cases h with
      | text string => exact absurd string hs
      | word _ | bit _ _ => exact absurd rfl hb
      | real32 _ _ | real64 _ _ => exact absurd rfl hf
      | integer hn range =>
          rw [hn]
          exact isSome_ofInt?_iff.2 range

/-- A number is taken at a type of fixed width exactly if it is that of a value. -/
theorem narrowed_eq_some_iff {τ : Type} {low high : Int} (make : Int → τ) (number : τ → Int)
    (number_make : ∀ n, low ≤ n → n < high → number (make n) = n)
    (make_number : ∀ t, low ≤ number t ∧ number t < high ∧ make (number t) = t)
    {read : Option Int} {t : τ} :
    (match read with
      | some n => if low ≤ n ∧ n < high then some (make n) else none
      | none => none) = some t ↔ read = some (number t) := by
  obtain ⟨hlow, hhigh, hmake⟩ := make_number t
  cases read with
  | none => simp
  | some n =>
      dsimp only
      rw [Option.some.injEq]
      constructor
      · intro h
        split at h
        next hn =>
          cases h
          exact (number_make n hn.1 hn.2).symm
        · cases h
      · rintro rfl
        rw [if_pos ⟨hlow, hhigh⟩, hmake]

/-- A count is a whole number of eight bits. -/
theorem count?_eq_some_iff {s : List Char} {k : UInt8} :
    count? s = some k ↔ integer? none s = some (k.toNat : Int) := by
  refine narrowed_eq_some_iff (fun n => UInt8.ofNat n.toNat) (fun k => (k.toNat : Int)) ?_ ?_
  · intro n hlow hhigh
    have hsize : n.toNat < UInt8.size := by
      change n.toNat < 256
      omega
    rw [UInt8.toNat_ofNat_of_lt' hsize]
    omega
  · intro k
    have hlt := k.toNat_lt
    exact ⟨by omega, by omega, UInt8.ofNat_toNat⟩

/-- A data type code is a whole number of sixteen bits. -/
theorem typeCode?_eq_some_iff {s : List Char} {code : UInt16} :
    typeCode? s = some code ↔ integer? none s = some (code.toNat : Int) := by
  refine narrowed_eq_some_iff (fun n => UInt16.ofNat n.toNat) (fun k => (k.toNat : Int)) ?_ ?_
  · intro n hlow hhigh
    have hsize : n.toNat < UInt16.size := by
      change n.toNat < 65536
      omega
    rw [UInt16.toNat_ofNat_of_lt' hsize]
    omega
  · intro k
    have hlt := k.toNat_lt
    exact ⟨by omega, by omega, UInt16.ofNat_toNat⟩

end Literal

/-- A raw value is a whole number of 64 bits with a sign. -/
theorem rawValue?_eq_some_iff {key : String} {n : Int64} :
    rawValue? key = some n ↔ Literal.integer? none key.toList = some n.toInt := by
  refine Literal.narrowed_eq_some_iff Int64.ofInt Int64.toInt ?_ ?_
  · intro m hlow hhigh
    exact Int64.toInt_ofInt_of_le (by omega) (by omega)
  · intro k
    have hlow := k.le_toInt
    have hhigh := k.toInt_lt
    exact ⟨by omega, by omega, Int64.ofInt_toInt k⟩

/-! ### What is accepted -/

/-- A code stands for a type, or else its definition leads to one. -/
inductive Sheet.Leads (sheet : Sheet) (code : UInt16) : DataType → Prop
  | standard {t : DataType} (code_eq : t.code = code) : Leads sheet code t
  | defined {t : DataType} {d : Section} {literal : String}
      (unknown : ∀ u : DataType, u.code ≠ code) (definition : sheet.definition? code = some d)
      (given : d.value? "DefaultValue" = some literal)
      (standard : Literal.integer? none literal.toList = some (t.code.toNat : Int)) :
      Leads sheet code t

/-- The section gives a data type code. -/
def Section.TypeCode (s : Section) (code : UInt16) : Prop :=
  ∃ literal, s.value? Field.dataType.key = some literal ∧
    Literal.integer? none literal.toList = some (code.toNat : Int)

/-- The section has a type. -/
def Sheet.HasType (sheet : Sheet) (s : Section) (t : DataType) : Prop :=
  ∃ code, s.TypeCode code ∧ sheet.Leads code t

/-- The section gives a literal in a field that is not accepted there, and the fault says so. -/
def Section.BadLiteral (s : Section) (a : Address) (field : Field) (accepted : String → Prop)
    (f : Fault) : Prop :=
  ∃ literal, s.value? field.key = some literal ∧ ¬ accepted literal ∧
    f = .badLiteral a field literal

/-- The fields whose literals are values of the section's type. -/
def Field.values : List Field := [.lowLimit, .highLimit, .defaultValue, .parameterValue]

/-- **The faults of a section read as a variable** at an address, for a node. -/
inductive Sheet.VariableFault (sheet : Sheet) (node : Option UInt8) (s : Section) (a : Address) :
    Fault → Prop
  /-- The data type is not a code. -/
  | dataType {f : Fault}
      (bad : s.BadLiteral a .dataType
        (fun l => ∃ code : UInt16, Literal.integer? none l.toList = some (code.toNat : Int)) f) :
      VariableFault sheet node s a f
  /-- The code leads to no type. -/
  | unknownType {code : UInt16} (given : s.TypeCode code) (unknown : ∀ t, ¬ sheet.Leads code t) :
      VariableFault sheet node s a (.unknownType a code)
  | accessType {f : Fault}
      (bad : s.BadLiteral a .accessType (fun l => ∃ access, AccessType.ofText? l = some access) f) :
      VariableFault sheet node s a f
  /-- A value is malformed or out of range for the section's type. -/
  | value {field : Field} {t : DataType} {f : Fault} (mem : field ∈ Field.values)
      (type : sheet.HasType s t)
      (bad : s.BadLiteral a field (fun l => Literal.Omitted t l ∨ Literal.Denotes node l t) f) :
      VariableFault sheet node s a f
  | factor {f : Fault}
      (bad : s.BadLiteral a .factor
        (fun l => ∃ x, Binary64.ofText? l.toList = some x ∧ x.isFinite) f) :
      VariableFault sheet node s a f
  /-- The key of a label is not a raw value. -/
  | valueDescription {raw : String} {e : Entry}
      (mem : (raw, e) ∈ s.family (Field.valueDescription.key ++ "."))
      (bad : ¬ ∃ n : Int64, Literal.integer? none raw.toList = some n.toInt) :
      VariableFault sheet node s a (.badLiteral a .valueDescription raw)
  /-- A part of a list is not the number of a bit. -/
  | bitDefinition {name : String} {e : Entry}
      (mem : (name, e) ∈ s.family (Field.bitDefinition.key ++ "."))
      (bad : ∃ part ∈ e.value.toList.splitOn ',', bit? part = none) :
      VariableFault sheet node s a (.badLiteral a .bitDefinition e.value)

/-! ### Types -/

section Variables

variable {sheet : Sheet} {node : Option UInt8} {s : Section} {a : Address}

theorem Sheet.definedType?_eq_some_iff {code : UInt16} {t : DataType} :
    sheet.definedType? code = some t ↔ ∃ d literal, sheet.definition? code = some d ∧
      d.value? "DefaultValue" = some literal ∧
      Literal.integer? none literal.toList = some (t.code.toNat : Int) := by
  unfold definedType?
  simp only [Option.bind_eq_bind, Option.bind_eq_some_iff, DataType.ofCode?_eq_some_iff,
    Literal.typeCode?_eq_some_iff]
  constructor
  · rintro ⟨d, hd, literal, hl, code, hcode, rfl⟩
    exact ⟨d, literal, hd, hl, hcode⟩
  · rintro ⟨d, literal, hd, hl, hcode⟩
    exact ⟨d, hd, literal, hl, _, hcode, rfl⟩

/-- A literal of one field, or none, is read without fault exactly if it is accepted. -/
theorem Section.failsFor_field {α : Type} {field : Field} {accepted : String → Prop} {x : α}
    {read : String → Step α}
    (h : ∀ l, FailsFor (fun f => ¬ accepted l ∧ f = .badLiteral a field l) (read l).outcome) :
    FailsFor (s.BadLiteral a field accepted)
      (match s.value? field.key with
        | none => pure x
        | some l => read l : Step α).outcome := by
  refine FailsFor.of_option (fun hl => ?_) fun l hl => ?_
  · rw [hl]
    exact failsFor_ok x
  · rw [hl]
    exact h l

theorem Section.failsFor_access :
    FailsFor (s.BadLiteral a .accessType fun l => ∃ access, AccessType.ofText? l = some access)
      (s.access a).outcome := by
  refine failsFor_field fun l => ?_
  cases AccessType.ofText? l with
  | none => exact ⟨nofun, rfl⟩
  | some access => exact fun f hf => hf.1 ⟨access, rfl⟩

theorem Section.failsFor_factor :
    FailsFor (s.BadLiteral a .factor
        fun l => ∃ x, Binary64.ofText? l.toList = some x ∧ x.isFinite)
      (s.factor a).outcome := by
  refine failsFor_field fun l => ?_
  cases hx : (Binary64.ofText? l.toList).filter Binary64.isFinite with
  | none =>
      refine ⟨?_, rfl⟩
      rintro ⟨x, hx', hfinite⟩
      rw [hx', Option.filter_some, if_pos hfinite] at hx
      cases hx
  | some x =>
      obtain ⟨hx, hfinite⟩ := Option.filter_eq_some_iff.1 hx
      exact fun f hf => hf.1 ⟨x, hx, hfinite⟩

theorem Section.failsFor_typedValue {t : DataType} {field : Field} :
    FailsFor (s.BadLiteral a field fun l => Literal.Omitted t l ∨ Literal.Denotes node l t)
      (s.typedValue a t node field).outcome := by
  refine failsFor_field fun l => ?_
  rw [Literal.outcome_value]
  split
  next ho => exact fun f hf => hf.1 (.inl ho)
  next ho =>
    have ht : t ≠ .domain := fun ht => ho (.inl ht)
    have hread : (Literal.parse? t node l).isSome ↔ Literal.Denotes node l t :=
      Literal.isSome_parse?_iff ht
    cases hp : Literal.parse? t node l with
    | none =>
        rw [hp] at hread
        exact ⟨fun hl => hl.elim ho fun hd => absurd (hread.2 hd) Bool.false_ne_true, rfl⟩
    | some v =>
        rw [hp] at hread
        exact fun f hf => hf.1 (.inr (hread.1 rfl))

theorem Sheet.leads_iff {code : UInt16} {t : DataType} :
    (DataType.ofCode? code).or (sheet.definedType? code) = some t ↔ sheet.Leads code t := by
  have hunknown : DataType.ofCode? code = none ↔ ∀ u : DataType, u.code ≠ code := by
    rw [Option.eq_none_iff_forall_not_mem]
    exact forall_congr' fun u => not_congr DataType.ofCode?_eq_some_iff
  rw [Option.or_eq_some_iff, hunknown, DataType.ofCode?_eq_some_iff, definedType?_eq_some_iff]
  constructor
  · rintro (h | ⟨unknown, d, literal, definition, given, standard⟩)
    · exact .standard h
    · exact .defined unknown definition given standard
  · intro h
    cases h with
    | standard code_eq => exact .inl code_eq
    | defined unknown definition given standard =>
        exact .inr ⟨unknown, _, _, definition, given, standard⟩

theorem Section.typeCode_iff {literal : String} (h : s.value? Field.dataType.key = some literal)
    {code : UInt16} : s.TypeCode code ↔ Literal.typeCode? literal.toList = some code := by
  rw [Literal.typeCode?_eq_some_iff]
  constructor
  · rintro ⟨literal', h', hcode⟩
    cases h.symm.trans h'
    exact hcode
  · intro hcode
    exact ⟨literal, h, hcode⟩

theorem Sheet.failsFor_dataType :
    FailsFor (fun f => s.BadLiteral a .dataType
        (fun l => ∃ code : UInt16, Literal.integer? none l.toList = some (code.toNat : Int)) f ∨
        ∃ code, s.TypeCode code ∧ (∀ t, ¬ sheet.Leads code t) ∧ f = .unknownType a code)
      (sheet.dataType s a).outcome := by
  rw [outcome_dataType]
  cases hl : s.value? Field.dataType.key with
  | none =>
      rintro f (⟨l, hl', -⟩ | ⟨code, ⟨l, hl', -⟩, -⟩) <;> cases hl.symm.trans hl'
  | some literal =>
      dsimp only
      cases hcode : Literal.typeCode? literal.toList with
      | none =>
          refine .inl ⟨literal, hl, ?_, rfl⟩
          rintro ⟨code, hn⟩
          cases hcode.symm.trans (Literal.typeCode?_eq_some_iff.2 hn)
      | some code =>
          have hgiven := (Section.typeCode_iff hl).2 hcode
          dsimp only
          cases ht : (DataType.ofCode? code).or (sheet.definedType? code) with
          | none =>
              refine .inr ⟨code, hgiven, fun t hleads => ?_, rfl⟩
              cases ht.symm.trans (leads_iff.2 hleads)
          | some t =>
              rintro f (⟨l, hl', hbad, -⟩ | ⟨code', hcode', hnone, -⟩)
              · cases hl.symm.trans hl'
                exact hbad ⟨code, Literal.typeCode?_eq_some_iff.1 hcode⟩
              · cases hcode.symm.trans ((Section.typeCode_iff hl).1 hcode')
                exact hnone t (leads_iff.1 ht)

/-- The type that is read is the one that the section has. -/
theorem Sheet.eq_some_iff_of_dataType {type : Option DataType}
    (h : (sheet.dataType s a).outcome = .ok type) (t : DataType) :
    type = some t ↔ sheet.HasType s t := by
  rw [outcome_dataType] at h
  cases hl : s.value? Field.dataType.key with
  | none =>
      rw [hl] at h
      cases h
      refine ⟨nofun, ?_⟩
      rintro ⟨code, ⟨l, hl', -⟩, -⟩
      cases hl.symm.trans hl'
  | some literal =>
      rw [hl] at h
      dsimp only at h
      split at h
      · cases h
      next code hcode =>
        have hgiven := (Section.typeCode_iff hl).2 hcode
        split at h
        next u hu =>
          cases h
          constructor
          · rintro ⟨⟩
            exact ⟨code, hgiven, leads_iff.1 hu⟩
          · rintro ⟨code', hcode', hleads⟩
            cases hcode.symm.trans ((Section.typeCode_iff hl).1 hcode')
            exact hu.symm.trans (leads_iff.2 hleads)
        next => cases h

/-- Reading values fails for a literal that does not fit the type of the section. -/
theorem Section.failsFor_values {v : Variable}
    (hv : ∀ t, v.dataType = some t ↔ sheet.HasType s t) :
    FailsFor (fun f => ∃ field ∈ Field.values, ∃ t, sheet.HasType s t ∧
        s.BadLiteral a field (fun l => Literal.Omitted t l ∨ Literal.Denotes node l t) f)
      (s.values a node v).outcome := by
  rw [outcome_values]
  cases ht : v.dataType with
  | none =>
      rintro f ⟨field, -, t, htype, -⟩
      cases ht.symm.trans ((hv t).2 htype)
  | some t =>
      have hbad : ∀ field, FailsFor (s.BadLiteral a field
          fun l => Literal.Omitted t l ∨ Literal.Denotes node l t)
          (s.typedValue a t node field).outcome := fun _ => failsFor_typedValue
      have hhas : ∀ {field f}, (∃ t, sheet.HasType s t ∧ s.BadLiteral a field
          (fun l => Literal.Omitted t l ∨ Literal.Denotes node l t) f) ↔
          s.BadLiteral a field (fun l => Literal.Omitted t l ∨ Literal.Denotes node l t) f := by
        intro field f
        constructor
        · rintro ⟨t', htype, h⟩
          cases ht.symm.trans ((hv t').2 htype)
          exact h
        · exact fun h => ⟨t, (hv t).1 ht, h⟩
      refine ((hbad .lowLimit).bind fun low _ => (hbad .highLimit).bind fun high _ =>
        (hbad .defaultValue).bind fun default _ => (hbad .parameterValue).bind
          fun parameter _ => failsFor_ok _).congr fun f => ?_
      simp only [Field.values, List.mem_cons, List.not_mem_nil, or_false, hhas, exists_eq_or_imp,
          exists_eq_left]

theorem Section.failsFor_valueDescriptions {v : Variable} :
    FailsFor (fun f => ∃ x ∈ s.family (Field.valueDescription.key ++ "."),
        (¬ ∃ n : Int64, Literal.integer? none x.1.toList = some n.toInt) ∧
          f = .badLiteral a .valueDescription x.1)
      (s.valueDescriptions a v).outcome := by
  unfold valueDescriptions
  refine failsFor_foldlM (I := fun _ => True) ?_ (fun _ _ _ _ _ _ => trivial) trivial
  rintro ⟨raw, e⟩ - v -
  dsimp only
  cases hr : rawValue? raw with
  | none =>
      refine ⟨?_, rfl⟩
      rintro ⟨n, hn⟩
      cases hr.symm.trans (rawValue?_eq_some_iff.2 hn)
  | some n => exact fun f hf => hf.1 ⟨n, rawValue?_eq_some_iff.1 hr⟩

theorem bits?_eq_none_iff {literal : String} :
    bits? literal = none ↔ ∃ part ∈ literal.toList.splitOn ',', bit? part = none := by
  unfold bits?
  generalize literal.toList.splitOn ',' = parts
  induction parts with
  | nil => simp
  | cons part parts ih =>
      rw [List.mapM_cons, List.exists_mem_cons_iff, ← ih]
      cases bit? part with
      | none => simp
      | some n => cases List.mapM bit? parts <;> simp

theorem Section.failsFor_bitDefinitions {v : Variable} :
    FailsFor (fun f => ∃ x ∈ s.family (Field.bitDefinition.key ++ "."),
        (∃ part ∈ x.2.value.toList.splitOn ',', bit? part = none) ∧
          f = .badLiteral a .bitDefinition x.2.value)
      (s.bitDefinitions a v).outcome := by
  unfold bitDefinitions
  refine failsFor_foldlM (I := fun _ => True) ?_ (fun _ _ _ _ _ _ => trivial) trivial
  rintro ⟨name, e⟩ - v -
  dsimp only
  rw [← bits?_eq_none_iff]
  cases bits? e.value with
  | none => exact ⟨rfl, rfl⟩
  | some bits => exact fun f hf => nomatch hf.1

/-! ### The whole variable -/

/-- **Reading a variable fails exactly for its faults.** -/
theorem Sheet.failsFor_variable :
    FailsFor (sheet.VariableFault node s a) (sheet.variable s a node).outcome := by
  rw [outcome_variable]
  refine (failsFor_dataType.bind fun type htype => Section.failsFor_access.bind fun access _ =>
    (Section.failsFor_values (eq_some_iff_of_dataType htype)).bind fun v _ =>
      Section.failsFor_factor.bind fun factor _ => Section.failsFor_valueDescriptions.bind
        fun v _ => Section.failsFor_bitDefinitions).congr fun f => ?_
  constructor
  · rintro ((h | ⟨code, given, unknown, rfl⟩) | h | ⟨field, mem, t, type, h⟩ | h |
      ⟨⟨raw, e⟩, mem, bad, rfl⟩ | ⟨⟨name, e⟩, mem, bad, rfl⟩)
    · exact .dataType h
    · exact .unknownType given unknown
    · exact .accessType h
    · exact .value mem type h
    · exact .factor h
    · exact .valueDescription mem bad
    · exact .bitDefinition mem bad
  · intro h
    cases h with
    | dataType bad => exact .inl (.inl bad)
    | unknownType given unknown => exact .inl (.inr ⟨_, given, unknown, rfl⟩)
    | accessType bad => exact .inr (.inl bad)
    | value mem type bad => exact .inr (.inr (.inl ⟨_, mem, _, type, bad⟩))
    | factor bad => exact .inr (.inr (.inr (.inl bad)))
    | valueDescription mem bad => exact .inr (.inr (.inr (.inr (.inl ⟨_, mem, bad, rfl⟩))))
    | bitDefinition mem bad => exact .inr (.inr (.inr (.inr (.inr ⟨_, mem, bad, rfl⟩))))

end Variables

end DataSheet
