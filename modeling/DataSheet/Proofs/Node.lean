/-
**What the node reaches.**

A data sheet is read for a node, or for none.  The node counts in one place only: where the literal
of a value is relative to its id.  Without a node there are no such literals, so that any node may
be added; and between two nodes all that can differ are whole numbers, by as much as the ids do.

Main definitions:

* `Value.Shifts` — two values are equal, or whole numbers of one kind at a given distance;
* `Variable.Shifts`, `Group.Shifts`, `Object.Shifts`, `Dictionary.Shifts` — all else is equal, and
  values are related in this way;
* `Dictionary.At` — the same dictionary for another node.

Main results:

* `Literal.integer?_of_none`, `Literal.integer?_apart` — what the node does to a literal;
* `Sheet.variable_of_none`, `Sheet.variable_shifts` — what it does to a variable;
* `Dictionary.ofSheet_at`, `Dictionary.ofSheet_shifts` — what it does to a whole dictionary;
* `node_reaches_relative_literals` — **the node reaches nothing but literals relative to its id**.
-/

import DataSheet.Proofs.Alike
import DataSheet.Proofs.Commute
import DataSheet.Proofs.Described

set_option relaxedAutoImplicit false
set_option autoImplicit false

namespace DataSheet

/-! ### Values at a distance -/

namespace Value

/-- The values are of one kind. -/
def SameKind : Value → Value → Prop
  | boolean _, boolean _ | signed _, signed _ | unsigned _, unsigned _ => True
  | float _, float _ | text _, text _ => True
  | _, _ => False

/-- The values are equal, or whole numbers of one kind of which the second is greater by `k`. -/
def Shifts (k : Int) (v w : Value) : Prop :=
  v = w ∨ v.SameKind w ∧ ∃ i, v.int? = some i ∧ w.int? = some (i + k)

end Value

/-- Two variables differ in their values only, which are at a distance. -/
structure Variable.Shifts (k : Int) (v w : Variable) : Prop where
  others : w = { v with
    lowLimit := w.lowLimit
    highLimit := w.highLimit
    defaultValue := w.defaultValue
    parameterValue := w.parameterValue }
  lowLimit : Option.Rel (Value.Shifts k) v.lowLimit w.lowLimit
  highLimit : Option.Rel (Value.Shifts k) v.highLimit w.highLimit
  defaultValue : Option.Rel (Value.Shifts k) v.defaultValue w.defaultValue
  parameterValue : Option.Rel (Value.Shifts k) v.parameterValue w.parameterValue

/-- Two groups differ in the values of their members only. -/
structure Group.Shifts (k : Int) (g h : Group) : Prop where
  others : h = { g with members := h.members }
  members : Registry.Alike (Variable.Shifts k) g.members h.members

/-- Two objects are of one kind and differ in the values of their variables only. -/
inductive Object.Shifts (k : Int) : Object → Object → Prop
  | plain {v w : Variable} (h : v.Shifts k w) : Shifts k (.plain v) (.plain w)
  | group {g h : Group} (hg : g.Shifts k h) : Shifts k (.group g) (.group h)

/-- Two dictionaries differ in the values of their variables only, and in the node. -/
structure Dictionary.Shifts (k : Int) (d e : Dictionary) : Prop where
  registry : Registry.Alike (Object.Shifts k) d.registry e.registry
  bitrate : d.bitrate = e.bitrate

/-! ### Literals -/

namespace Literal

/-- A literal that denotes a number without a node is not relative to one. -/
theorem integer?_of_none {s : List Char} {i : Int} (h : integer? none s = some i)
    (node : Option UInt8) : integer? node s = some i := by
  unfold integer? at h ⊢
  dsimp only at h ⊢
  split at h
  · cases h
  next hr => rwa [if_neg hr]

/-- For two nodes a literal denotes one number, or two as far apart as the nodes. -/
theorem integer?_apart {n m : UInt8} {s : List Char} {i j : Int}
    (hi : integer? (some n) s = some i) (hj : integer? (some m) s = some j) :
    j = i ∨ j = i + ((m.toNat : Int) - n.toNat) := by
  unfold integer? at hi hj
  dsimp only at hi hj
  split at hi
  next hr =>
    rw [if_pos hr] at hj
    cases hs : signed? (splitTerm (compact s)).1 with
    | none =>
        rw [hs] at hi
        cases hi
    | some x =>
        rw [hs] at hi hj
        cases hi
        cases hj
        right
        omega
  next hr =>
    rw [if_neg hr] at hj
    exact .inl (Option.some.inj (hj.symm.trans hi))

/-- A truth value that no word denotes stands for the number that the literal denotes. -/
theorem integer?_of_boolean? {node : Option UInt8} {s : List Char} {b : Bool}
    (htrue : Text.lower (Text.trim s) ≠ "true".toList)
    (hfalse : Text.lower (Text.trim s) ≠ "false".toList) :
    boolean? node s = some b ↔ integer? node (Text.lower (Text.trim s)) = some (b.toNat : Int) := by
  unfold boolean?
  dsimp only
  rw [if_neg htrue, if_neg hfalse]
  split
  next h => rw [h]; cases b <;> simp
  next h => rw [h]; cases b <;> simp
  next h0 h1 =>
    constructor
    · intro h; cases h
    · intro h
      cases b with
      | false => exact absurd h h0
      | true => exact absurd h h1

theorem boolean?_of_none {s : List Char} {b : Bool} (h : boolean? none s = some b)
    (node : Option UInt8) : boolean? node s = some b := by
  by_cases htrue : Text.lower (Text.trim s) = "true".toList
  · unfold boolean? at h ⊢
    rwa [if_pos htrue] at h ⊢
  by_cases hfalse : Text.lower (Text.trim s) = "false".toList
  · unfold boolean? at h ⊢
    rwa [if_neg htrue, if_pos hfalse] at h ⊢
  rw [integer?_of_boolean? htrue hfalse] at h ⊢
  exact integer?_of_none h node

theorem boolean?_apart {n m : UInt8} {s : List Char} {b c : Bool}
    (hb : boolean? (some n) s = some b) (hc : boolean? (some m) s = some c) :
    c = b ∨ (c.toNat : Int) = b.toNat + ((m.toNat : Int) - n.toNat) := by
  by_cases htrue : Text.lower (Text.trim s) = "true".toList
  · unfold boolean? at hb hc
    rw [if_pos htrue] at hb hc
    exact .inl (Option.some.inj (hc.symm.trans hb))
  by_cases hfalse : Text.lower (Text.trim s) = "false".toList
  · unfold boolean? at hb hc
    rw [if_neg htrue, if_pos hfalse] at hb hc
    exact .inl (Option.some.inj (hc.symm.trans hb))
  rw [integer?_of_boolean? htrue hfalse] at hb hc
  rcases integer?_apart hb hc with h | h
  · left
    cases b <;> cases c <;> simp_all
  · exact .inr h

/-- A value of an integer type stands for the number that it is made of. -/
theorem int?_of_ofInt? {t : DataType} {i : Int} {v : Value} (h : ofInt? t i = some v) :
    v.int? = some i ∧ (t.isSigned → ∃ x, v = .signed x) ∧
      (t.isSigned = false → ∃ x, v = .unsigned x) := by
  obtain ⟨-, hv⟩ := ofInt?_eq_some_iff.1 h
  cases v with
  | signed x =>
      obtain ⟨hs, rfl⟩ := hv
      refine ⟨rfl, fun _ => ⟨x, rfl⟩, fun hn => ?_⟩
      rw [hs] at hn
      cases hn
  | unsigned x =>
      obtain ⟨hu, rfl⟩ := hv
      refine ⟨rfl, fun hs => ?_, fun _ => ⟨x, rfl⟩⟩
      rw [DataType.isSigned_of_isUnsigned hu] at hs
      cases hs
  | boolean b | float y | text u => exact absurd hv id

/-- Values of one integer type are of one kind. -/
theorem ofInt?_apart {t : DataType} {k i j : Int} {v w : Value} (hv : ofInt? t i = some v)
    (hw : ofInt? t j = some w) (h : j = i ∨ j = i + k) : v.Shifts k w := by
  rcases h with rfl | rfl
  · exact .inl (Option.some.inj (hv.symm.trans hw))
  obtain ⟨hvi, hvs, hvu⟩ := int?_of_ofInt? hv
  obtain ⟨hwi, hws, hwu⟩ := int?_of_ofInt? hw
  refine .inr ⟨?_, i, hvi, hwi⟩
  cases ht : t.isSigned with
  | true =>
      obtain ⟨x, rfl⟩ := hvs ht
      obtain ⟨y, rfl⟩ := hws ht
      trivial
  | false =>
      obtain ⟨x, rfl⟩ := hvu ht
      obtain ⟨y, rfl⟩ := hwu ht
      trivial

/-- A literal denotes the same for all nodes, or it is read as a truth value or a whole number. -/
theorem parse?_node (t : DataType) (literal : String) :
    (∀ node node', parse? t node literal = parse? t node' literal) ∨
    (∀ node, parse? t node literal = (boolean? node literal.toList).map Value.boolean) ∨
    ∀ node, parse? t node literal = (integer? node literal.toList).bind (ofInt? t) := by
  unfold parse?
  by_cases hd : t = .domain
  · simp only [if_pos hd, implies_true, true_or]
  by_cases hs : t.isString = true
  · simp only [if_neg hd, if_pos hs, implies_true, true_or]
  by_cases hb : t = .boolean
  · simp only [if_neg hd, if_neg hs, if_pos hb, implies_true, true_or, or_true]
  by_cases hf : t.isFloat = true
  · simp only [if_neg hd, if_neg hs, if_neg hb, if_pos hf, implies_true, true_or]
  · simp only [if_neg hd, if_neg hs, if_neg hb, if_neg hf, implies_true, or_true]

/-- **A value that a literal denotes without a node it denotes for all nodes.** -/
theorem parse?_of_none {t : DataType} {literal : String} {v : Value}
    (h : parse? t none literal = some v) (node : Option UInt8) :
    parse? t node literal = some v := by
  rcases parse?_node t literal with hp | hp | hp
  · rw [hp node none, h]
  · rw [hp] at h ⊢
    obtain ⟨b, hb, rfl⟩ := Option.map_eq_some_iff.1 h
    rw [boolean?_of_none hb node]
    rfl
  · rw [hp] at h ⊢
    obtain ⟨i, hi, hv⟩ := Option.bind_eq_some_iff.1 h
    rw [integer?_of_none hi node]
    exact hv

/-- **For two nodes a literal denotes one value**, or two whole numbers as far apart as the
nodes. -/
theorem parse?_apart {t : DataType} {n m : UInt8} {literal : String} {v w : Value}
    (hv : parse? t (some n) literal = some v) (hw : parse? t (some m) literal = some w) :
    v.Shifts ((m.toNat : Int) - n.toNat) w := by
  rcases parse?_node t literal with hp | hp | hp
  · rw [hp (some m) (some n)] at hw
    exact .inl (Option.some.inj (hv.symm.trans hw))
  · rw [hp] at hv hw
    obtain ⟨b, hb, rfl⟩ := Option.map_eq_some_iff.1 hv
    obtain ⟨c, hc, rfl⟩ := Option.map_eq_some_iff.1 hw
    rcases boolean?_apart hb hc with rfl | h
    · exact .inl rfl
    · exact .inr ⟨trivial, _, rfl, congrArg some h⟩
  · rw [hp] at hv hw
    obtain ⟨i, hi, hv⟩ := Option.bind_eq_some_iff.1 hv
    obtain ⟨j, hj, hw⟩ := Option.bind_eq_some_iff.1 hw
    exact ofInt?_apart hv hw (integer?_apart hi hj)

end Literal

/-! ### Variables -/

section Variables

variable {sheet : Sheet} {s : Section} {a : Address} {n m : UInt8}

/-- What a section gives in a field without a node, it gives for all nodes. -/
theorem Section.typedValue_of_none {t : DataType} {field : Field} {x : Option Value}
    (h : (s.typedValue a t none field).outcome = .ok x) (node : Option UInt8) :
    (s.typedValue a t node field).outcome = .ok x := by
  unfold typedValue at h ⊢
  cases hl : s.value? field.key with
  | none =>
      rw [hl] at h
      exact h
  | some literal =>
      rw [hl] at h
      dsimp only at h ⊢
      rw [Literal.outcome_value] at h ⊢
      split
      next ho => rwa [if_pos ho] at h
      next ho =>
        rw [if_neg ho] at h
        cases hp : Literal.parse? t none literal with
        | none =>
            rw [hp] at h
            cases h
        | some v =>
            rw [hp] at h
            rw [Literal.parse?_of_none hp node]
            exact h

theorem Section.typedValue_apart {t : DataType} {field : Field} {x y : Option Value}
    (hx : (s.typedValue a t (some n) field).outcome = .ok x)
    (hy : (s.typedValue a t (some m) field).outcome = .ok y) :
    Option.Rel (Value.Shifts ((m.toNat : Int) - n.toNat)) x y := by
  unfold typedValue at hx hy
  cases hl : s.value? field.key with
  | none =>
      rw [hl] at hx hy
      cases hx
      cases hy
      exact .none
  | some literal =>
      rw [hl] at hx hy
      dsimp only at hx hy
      rw [Literal.outcome_value] at hx hy
      split at hx
      next ho =>
        rw [if_pos ho] at hy
        cases hx
        cases hy
        exact .none
      next ho =>
        rw [if_neg ho] at hy
        cases hv : Literal.parse? t (some n) literal with
        | none =>
            rw [hv] at hx
            cases hx
        | some v =>
            cases hw : Literal.parse? t (some m) literal with
            | none =>
                rw [hw] at hy
                cases hy
            | some w =>
                rw [hv] at hx
                rw [hw] at hy
                cases hx
                cases hy
                exact .some (Literal.parse?_apart hv hw)

theorem Section.values_of_none {v w : Variable} (h : (s.values a none v).outcome = .ok w)
    (node : Option UInt8) : (s.values a node v).outcome = .ok w := by
  rw [outcome_values] at h ⊢
  cases ht : v.dataType with
  | none =>
      rw [ht] at h
      exact h
  | some t =>
      rw [ht] at h
      simp only [Report.bind_eq_ok_iff] at h ⊢
      obtain ⟨low, hlow, high, hhigh, default, hdefault, parameter, hparameter, h⟩ := h
      exact ⟨low, typedValue_of_none hlow node, high, typedValue_of_none hhigh node,
        default, typedValue_of_none hdefault node, parameter, typedValue_of_none hparameter node, h⟩

theorem Variable.Shifts.refl (k : Int) (v : Variable) : v.Shifts k v := by
  have hrel : ∀ o : Option Value, Option.Rel (Value.Shifts k) o o := by
    intro o
    cases o with
    | none => exact .none
    | some x => exact .some (.inl rfl)
  exact ⟨rfl, hrel _, hrel _, hrel _, hrel _⟩

theorem Section.values_apart {v w w' : Variable}
    (hw : (s.values a (some n) v).outcome = .ok w)
    (hw' : (s.values a (some m) v).outcome = .ok w') :
    w.Shifts ((m.toNat : Int) - n.toNat) w' := by
  rw [outcome_values] at hw hw'
  cases ht : v.dataType with
  | none =>
      rw [ht] at hw hw'
      cases hw
      cases hw'
      exact .refl _ _
  | some t =>
      rw [ht] at hw hw'
      simp only [Report.bind_eq_ok_iff] at hw hw'
      obtain ⟨low, hlow, high, hhigh, default, hdefault, parameter, hparameter, h⟩ := hw
      obtain ⟨low', hlow', high', hhigh', default', hdefault', parameter', hparameter', h'⟩ := hw'
      cases h
      cases h'
      exact ⟨rfl, typedValue_apart hlow hlow', typedValue_apart hhigh hhigh',
        typedValue_apart hdefault hdefault', typedValue_apart hparameter hparameter'⟩

/-- A label is given without regard to values. -/
theorem Variable.Shifts.describe {k : Int} {v w : Variable} (h : v.Shifts k w) (x : Int64)
    (label : String) : (v.describe x label).Shifts k (w.describe x label) where
  others := by
    rw [h.others]
    rfl
  lowLimit := h.lowLimit
  highLimit := h.highLimit
  defaultValue := h.defaultValue
  parameterValue := h.parameterValue

theorem Variable.Shifts.defineBits {k : Int} {v w : Variable} (h : v.Shifts k w) (field : String)
    (bits : List UInt8) : (v.defineBits field bits).Shifts k (w.defineBits field bits) where
  others := by
    rw [h.others]
    rfl
  lowLimit := h.lowLimit
  highLimit := h.highLimit
  defaultValue := h.defaultValue
  parameterValue := h.parameterValue

theorem Section.valueDescriptions_shifts {k : Int} {v w v' w' : Variable} (h : v.Shifts k w)
    (hv : (s.valueDescriptions a v).outcome = .ok v')
    (hw : (s.valueDescriptions a w).outcome = .ok w') : v'.Shifts k w' := by
  unfold valueDescriptions at hv hw
  refine Report.foldlM_rel ?_ h hv hw
  rintro ⟨raw, e⟩ v w v' w' h hv hw
  dsimp only at hv hw
  cases hr : rawValue? raw with
  | none =>
      rw [hr] at hv
      cases hv
  | some x =>
      rw [hr] at hv hw
      cases hv
      cases hw
      exact h.describe x e.value

theorem Section.bitDefinitions_shifts {k : Int} {v w v' w' : Variable} (h : v.Shifts k w)
    (hv : (s.bitDefinitions a v).outcome = .ok v')
    (hw : (s.bitDefinitions a w).outcome = .ok w') : v'.Shifts k w' := by
  unfold bitDefinitions at hv hw
  refine Report.foldlM_rel ?_ h hv hw
  rintro ⟨field, e⟩ v w v' w' h hv hw
  dsimp only at hv hw
  cases hb : bits? e.value with
  | none =>
      rw [hb] at hv
      cases hv
  | some bits =>
      rw [hb] at hv hw
      cases hv
      cases hw
      exact h.defineBits field bits

/-- A variable that a section describes without a node, it describes for all nodes. -/
theorem Sheet.variable_of_none {v : Variable} (h : (sheet.variable s a none).outcome = .ok v)
    (node : Option UInt8) : (sheet.variable s a node).outcome = .ok v := by
  simp only [outcome_variable, Report.bind_eq_ok_iff] at h ⊢
  obtain ⟨type, ht, access, ha, w, hw, h⟩ := h
  exact ⟨type, ht, access, ha, w, Section.values_of_none hw node, h⟩

/-- **The variables that a section describes for two nodes** differ in their values only, by as much
as the nodes. -/
theorem Sheet.variable_shifts {v w : Variable}
    (hv : (sheet.variable s a (some n)).outcome = .ok v)
    (hw : (sheet.variable s a (some m)).outcome = .ok w) :
    v.Shifts ((m.toNat : Int) - n.toNat) w := by
  simp only [outcome_variable, Report.bind_eq_ok_iff] at hv hw
  obtain ⟨type, ht, access, ha, v₁, hv₁, factor, hf, v₂, hv₂, hv⟩ := hv
  obtain ⟨type', ht', access', ha', w₁, hw₁, factor', hf', w₂, hw₂, hw⟩ := hw
  cases ht.symm.trans ht'
  cases ha.symm.trans ha'
  cases hf.symm.trans hf'
  have h₁ := Section.values_apart hv₁ hw₁
  refine Section.bitDefinitions_shifts (Section.valueDescriptions_shifts ?_ hv₂ hw₂) hv hw
  refine ⟨?_, h₁.lowLimit, h₁.highLimit, h₁.defaultValue, h₁.parameterValue⟩
  rw [h₁.others]

/-! ### Objects -/

theorem Variable.Shifts.index {k : Int} {v w : Variable} (h : v.Shifts k w) :
    v.index = w.index := by
  rw [h.others]

theorem Variable.respected_shifts (k : Int) : Registry.Respected (Variable.Shifts k) := by
  intro v w h
  rw [h.others]
  exact ⟨rfl, rfl⟩

theorem Object.respected_shifts (k : Int) : Registry.Respected (Object.Shifts k) := by
  intro o p h
  cases h with
  | plain h => exact ⟨h.index, (Variable.respected_shifts k _ _ h).2⟩
  | group hg =>
      rw [hg.others]
      exact ⟨rfl, rfl⟩

theorem Group.Shifts.insert {k : Int} {g h : Group} (hgh : g.Shifts k h) {v w : Variable}
    (hvw : v.Shifts k w) : (g.insert v).Shifts k (h.insert w) where
  others := by
    rw [hgh.others]
    rfl
  members := hgh.members.insert (Variable.respected_shifts k) hvw

theorem Group.Shifts.of_members_empty (k : Int) {g : Group} (h : g.members = .empty) :
    g.Shifts k g where
  others := rfl
  members := by
    rw [h]
    exact Registry.alike_empty

theorem Sheet.object_of_none {index : UInt16} {o : Object}
    (h : (sheet.object s index none).outcome = .ok o) (node : Option UInt8) :
    (sheet.object s index node).outcome = .ok o := by
  rw [outcome_object, Report.bind_eq_ok_iff] at h ⊢
  obtain ⟨kind, hkind, h⟩ := h
  refine ⟨kind, hkind, ?_⟩
  cases kind with
  | plain =>
      obtain ⟨v, hv, rfl⟩ := Report.map_eq_ok_iff.1 h
      exact Report.map_eq_ok_iff.2 ⟨v, variable_of_none hv node, rfl⟩
  | compact =>
      obtain ⟨count, hcount, h⟩ := Report.bind_eq_ok_iff.1 h
      obtain ⟨template, ht, rfl⟩ := Report.map_eq_ok_iff.1 h
      refine Report.bind_eq_ok_iff.2 ⟨count, hcount, ?_⟩
      exact Report.map_eq_ok_iff.2 ⟨template, variable_of_none ht node, rfl⟩
  | group kind => exact h

/-- The objects that a section describes for two nodes differ in values only. -/
theorem Sheet.object_shifts {index : UInt16} {o p : Object}
    (ho : (sheet.object s index (some n)).outcome = .ok o)
    (hp : (sheet.object s index (some m)).outcome = .ok p) :
    o.Shifts ((m.toNat : Int) - n.toNat) p := by
  rw [outcome_object, Report.bind_eq_ok_iff] at ho hp
  obtain ⟨kind, hkind, ho⟩ := ho
  obtain ⟨kind', hkind', hp⟩ := hp
  cases hkind.symm.trans hkind'
  cases kind with
  | plain =>
      obtain ⟨v, hv, rfl⟩ := Report.map_eq_ok_iff.1 ho
      obtain ⟨w, hw, rfl⟩ := Report.map_eq_ok_iff.1 hp
      exact .plain (variable_shifts hv hw)
  | compact =>
      obtain ⟨count, hcount, ho⟩ := Report.bind_eq_ok_iff.1 ho
      obtain ⟨count', hcount', hp⟩ := Report.bind_eq_ok_iff.1 hp
      cases hcount.symm.trans hcount'
      obtain ⟨v, hv, rfl⟩ := Report.map_eq_ok_iff.1 ho
      obtain ⟨w, hw, rfl⟩ := Report.map_eq_ok_iff.1 hp
      have hempty := Group.Shifts.of_members_empty ((m.toNat : Int) - n.toNat)
        (g := Group.empty .array s.title index) rfl
      exact .group ((hempty.insert (.refl _ count)).insert (variable_shifts hv hw))
  | group kind =>
      cases ho
      cases hp
      exact .group (.of_members_empty _ rfl)

end Variables

/-! ### Dictionaries without a node -/

namespace Dictionary

variable {sheet : Sheet} {d d' e e' : Dictionary} {x : Section × Heading}

/-- The same dictionary for another node. -/
def At (node : Option UInt8) (d : Dictionary) : Dictionary := { d with nodeId := node }

theorem insertMembers_at (node : Option UInt8) (d : Dictionary) (index : UInt16)
    (vs : List Variable) :
    (d.At node).insertMembers index vs = (d.insertMembers index vs).At node := by
  induction vs generalizing d with
  | nil => rfl
  | cons v vs ih => exact ih (d.insertMember index v)

theorem firstPass_at (hd : d.nodeId = none) (node : Option UInt8)
    (h : (firstPass sheet d x).outcome = .ok d') :
    (firstPass sheet (d.At node) x).outcome = .ok (d'.At node) := by
  obtain ⟨s, heading⟩ := x
  cases heading with
  | commissioning =>
      change (d.commission s).outcome = _ at h
      change ((d.At node).commission s).outcome = _
      rw [outcome_commission, Report.map_eq_ok_iff] at h ⊢
      obtain ⟨b, hb, rfl⟩ := h
      exact ⟨b, hb, rfl⟩
  | dummyUsage =>
      change (d.addDummies s).outcome = _ at h
      change ((d.At node).addDummies s).outcome = _
      rw [outcome_addDummies, Except.ok.injEq] at h ⊢
      subst h
      generalize dummies s = l
      clear hd
      induction l generalizing d with
      | nil => rfl
      | cons i l ih => exact ih (d := d.insert _)
  | object index =>
      change (d.addObject sheet s index).outcome = _ at h
      change ((d.At node).addObject sheet s index).outcome = _
      rw [outcome_addObject, Report.map_eq_ok_iff] at h ⊢
      obtain ⟨o, ho, rfl⟩ := h
      rw [hd] at ho
      exact ⟨o, Sheet.object_of_none ho node, rfl⟩
  | member index subindex | nameList index | other =>
      cases h
      rfl

theorem secondPass_at (hd : d.nodeId = none) (node : Option UInt8)
    (h : (secondPass sheet d x).outcome = .ok d') :
    (secondPass sheet (d.At node) x).outcome = .ok (d'.At node) := by
  obtain ⟨s, heading⟩ := x
  cases heading with
  | member index subindex =>
      obtain ⟨v, o, hv, ho, rfl⟩ := addMember_eq_ok_iff.1 h
      rw [hd] at hv
      exact addMember_eq_ok_iff.2
        ⟨v, o, Sheet.variable_of_none hv node, ho, insertMembers_at node d index _⟩
  | commissioning | dummyUsage | object index | nameList index | other =>
      cases h
      rfl

theorem thirdPass_at (node : Option UInt8) (h : (thirdPass d x).outcome = .ok d') :
    (thirdPass (d.At node) x).outcome = .ok (d'.At node) := by
  obtain ⟨s, heading⟩ := x
  cases heading with
  | nameList index =>
      obtain ⟨count, o, vs, hc, ho, hvs, rfl⟩ := addNames_eq_ok_iff.1 h
      exact addNames_eq_ok_iff.2 ⟨count, o, vs, hc, ho, hvs, insertMembers_at node d index vs⟩
  | commissioning | dummyUsage | object index | member index subindex | other =>
      cases h
      rfl

/-- **A dictionary that a data sheet gives without a node, it gives for all nodes.** -/
theorem ofSheet_at (h : (sheet.dictionary none).outcome = .ok d) (node : Option UInt8) :
    (sheet.dictionary node).outcome = .ok (d.At node) := by
  obtain ⟨headed, d₁, d₂, hheaded, h₁, h₂, h₃⟩ := Sheet.outcome_dictionary_eq_ok_iff.1 h
  refine Sheet.outcome_dictionary_eq_ok_iff.2 ⟨headed, d₁.At node, d₂.At node, hheaded, ?_⟩
  have hfirst := Report.foldlM_follows (P := fun d => d.nodeId = none) (T := At node)
    (g := firstPass sheet) (fun x d d' hd h => ⟨(nodeId_firstPass h).trans hd,
      firstPass_at hd node h⟩) rfl h₁
  have hsecond := Report.foldlM_follows (P := fun d => d.nodeId = none) (T := At node)
    (g := secondPass sheet) (fun x d d' hd h => ⟨(nodeId_secondPass h).trans hd,
      secondPass_at hd node h⟩) hfirst.1 h₂
  have hthird := Report.foldlM_follows (P := fun _ => True) (T := At node)
    (g := thirdPass) (fun x d d' _ h => ⟨trivial, thirdPass_at node h⟩) trivial h₃
  exact ⟨hfirst.2, hsecond.2, hthird.2⟩

/-! ### Dictionaries for two nodes -/

variable {k : Int}

theorem Shifts.find? (h : d.Shifts k e) (index : UInt16) :
    Option.Rel (Object.Shifts k) (d.find? index) (e.find? index) :=
  h.registry.find? (Object.respected_shifts k) index

theorem Shifts.insert (h : d.Shifts k e) {o p : Object} (hop : o.Shifts k p) :
    (d.insert o).Shifts k (e.insert p) where
  registry := h.registry.insert (Object.respected_shifts k) hop
  bitrate := h.bitrate

theorem Shifts.insertMembers (h : d.Shifts k e) (index : UInt16) {vs ws : List Variable}
    (hvw : List.Forall₂ (Variable.Shifts k) vs ws) :
    (d.insertMembers index vs).Shifts k (e.insertMembers index ws) := by
  induction hvw generalizing d e with
  | nil => exact h
  | @cons v w vs ws hvw _ ih =>
      refine ih (d := d.insertMember index v) (e := e.insertMember index w) ?_
      rw [insertMember_eq_modify, insertMember_eq_modify]
      refine ⟨h.registry.modify (Object.respected_shifts k) fun o p hop => ?_, h.bitrate⟩
      cases hop with
      | plain hu => exact .plain hu
      | group hg => exact .group (hg.insert hvw)

/-- In the first run, steps for two nodes add objects that differ in values only. -/
theorem firstPass_shifts {n m : UInt8} (hd : d.nodeId = some n) (he : e.nodeId = some m)
    (h : d.Shifts ((m.toNat : Int) - n.toNat) e) (hd' : (firstPass sheet d x).outcome = .ok d')
    (he' : (firstPass sheet e x).outcome = .ok e') :
    d'.Shifts ((m.toNat : Int) - n.toNat) e' := by
  obtain ⟨s, heading⟩ := x
  cases heading with
  | commissioning =>
      change (d.commission s).outcome = _ at hd'
      change (e.commission s).outcome = _ at he'
      rw [outcome_commission, Report.map_eq_ok_iff] at hd' he'
      obtain ⟨b, hb, rfl⟩ := hd'
      obtain ⟨b', hb', rfl⟩ := he'
      cases hb.symm.trans hb'
      exact ⟨h.registry, congrArg (b.or ·) h.bitrate⟩
  | dummyUsage =>
      change (d.addDummies s).outcome = _ at hd'
      change (e.addDummies s).outcome = _ at he'
      rw [outcome_addDummies, Except.ok.injEq] at hd' he'
      subst hd' he'
      clear hd he
      generalize dummies s = l
      induction l generalizing d e with
      | nil => exact h
      | cons i l ih => exact ih (h.insert (.plain (.refl _ _)))
  | object index =>
      change (d.addObject sheet s index).outcome = _ at hd'
      change (e.addObject sheet s index).outcome = _ at he'
      rw [outcome_addObject, Report.map_eq_ok_iff] at hd' he'
      obtain ⟨o, ho, rfl⟩ := hd'
      obtain ⟨p, hp, rfl⟩ := he'
      rw [hd] at ho
      rw [he] at hp
      exact h.insert (Sheet.object_shifts ho hp)
  | member index subindex | nameList index | other =>
      cases hd'
      cases he'
      exact h

theorem secondPass_shifts {n m : UInt8} (hd : d.nodeId = some n) (he : e.nodeId = some m)
    (h : d.Shifts ((m.toNat : Int) - n.toNat) e) (hd' : (secondPass sheet d x).outcome = .ok d')
    (he' : (secondPass sheet e x).outcome = .ok e') :
    d'.Shifts ((m.toNat : Int) - n.toNat) e' := by
  obtain ⟨s, heading⟩ := x
  cases heading with
  | member index subindex =>
      obtain ⟨v, o, hv, ho, rfl⟩ := addMember_eq_ok_iff.1 hd'
      obtain ⟨w, p, hw, hp, rfl⟩ := addMember_eq_ok_iff.1 he'
      rw [hd] at hv
      rw [he] at hw
      have hvw := Sheet.variable_shifts hv hw
      refine h.insertMembers index ?_
      have hop := h.find? index
      rw [ho, hp] at hop
      cases hop with
      | some hop =>
          cases hop with
          | plain _ => exact .nil
          | group _ => exact .cons hvw .nil
  | commissioning | dummyUsage | object index | nameList index | other =>
      cases hd'
      cases he'
      exact h

/-- What a list of names adds to objects that differ in values only. -/
theorem named_shifts {o p : Object} (hop : o.Shifts k p) {s : Section} {count : UInt8}
    {vs ws : List Variable} (hvs : o.named s count = .ok vs) (hws : p.named s count = .ok ws) :
    List.Forall₂ (Variable.Shifts k) vs ws := by
  cases hop with
  | plain _ =>
      cases hvs
      cases hws
      exact .nil
  | @group g h hg =>
      unfold Object.named at hvs hws
      dsimp only at hvs hws
      rw [Group.element_template] at hvs hws
      have htemplate : Option.Rel (Variable.Shifts k) g.template? h.template? :=
        hg.members.find? (Variable.respected_shifts k) Group.templateSubindex
      generalize g.template? = t, h.template? = u at htemplate hvs hws
      cases htemplate with
      | none => cases hvs
      | @some t u htu =>
          cases hvs
          cases hws
          rw [List.forall₂_map_left_iff, List.forall₂_map_right_iff]
          refine List.forall₂_same.2 fun listed _ => ?_
          refine ⟨?_, htu.lowLimit, htu.highLimit, htu.defaultValue, htu.parameterValue⟩
          unfold namedMember Element.get
          rw [htu.others]

theorem thirdPass_shifts (h : d.Shifts k e) (hd' : (thirdPass d x).outcome = .ok d')
    (he' : (thirdPass e x).outcome = .ok e') : d'.Shifts k e' := by
  obtain ⟨s, heading⟩ := x
  cases heading with
  | nameList index =>
      obtain ⟨count, o, vs, hc, ho, hvs, rfl⟩ := addNames_eq_ok_iff.1 hd'
      obtain ⟨count', p, ws, hc', hp, hws, rfl⟩ := addNames_eq_ok_iff.1 he'
      cases hc.symm.trans hc'
      have hop := h.find? index
      rw [ho, hp] at hop
      cases hop with
      | some hop => exact h.insertMembers index (named_shifts hop hvs hws)
  | commissioning | dummyUsage | object index | member index subindex | other =>
      cases hd'
      cases he'
      exact h

/-- **The dictionaries that a data sheet gives for two nodes** differ in values only. -/
theorem ofSheet_shifts {n m : UInt8} (hd : (sheet.dictionary (some n)).outcome = .ok d)
    (he : (sheet.dictionary (some m)).outcome = .ok e) :
    d.nodeId = some n ∧ e.nodeId = some m ∧ d.Shifts ((m.toNat : Int) - n.toNat) e := by
  obtain ⟨headed, d₁, d₂, hheaded, hd₁, hd₂, hd⟩ := Sheet.outcome_dictionary_eq_ok_iff.1 hd
  obtain ⟨headed', e₁, e₂, hheaded', he₁, he₂, he⟩ := Sheet.outcome_dictionary_eq_ok_iff.1 he
  cases hheaded.symm.trans hheaded'
  -- the nodes stay what they are along the runs, and the dictionaries stay at their distance
  let R (d e : Dictionary) : Prop :=
    d.nodeId = some n ∧ e.nodeId = some m ∧ d.Shifts ((m.toNat : Int) - n.toNat) e
  have hstart : R { empty with nodeId := some n } { empty with nodeId := some m } :=
    ⟨rfl, rfl, Registry.alike_empty, rfl⟩
  have hfirst : R d₁ e₁ := by
    refine Report.foldlM_rel ?_ hstart hd₁ he₁
    rintro x d e d' e' ⟨hn, hm, h⟩ hd' he'
    exact ⟨(nodeId_firstPass hd').trans hn, (nodeId_firstPass he').trans hm,
      firstPass_shifts hn hm h hd' he'⟩
  have hsecond : R d₂ e₂ := by
    refine Report.foldlM_rel ?_ hfirst hd₂ he₂
    rintro x d e d' e' ⟨hn, hm, h⟩ hd' he'
    exact ⟨(nodeId_secondPass hd').trans hn, (nodeId_secondPass he').trans hm,
      secondPass_shifts hn hm h hd' he'⟩
  refine Report.foldlM_rel (R := R) ?_ hsecond hd he
  rintro x d e d' e' ⟨hn, hm, h⟩ hd' he'
  exact ⟨(nodeId_thirdPass hd').trans hn, (nodeId_thirdPass he').trans hm,
    thirdPass_shifts h hd' he'⟩

end Dictionary

/-- **The node reaches nothing but literals relative to its id.**  A text that can be read without a
node gives the same dictionary for all nodes; and the dictionaries that a text gives for two nodes
have the same objects, members and names, and values that are equal or whole numbers of one kind as
far apart as the nodes. -/
theorem node_reaches_relative_literals (text : String) :
    (∀ d, (Dictionary.ofText text none).outcome = .ok d →
      ∀ n, (Dictionary.ofText text (some n)).outcome = .ok { d with nodeId := some n }) ∧
    ∀ n m d e, (Dictionary.ofText text (some n)).outcome = .ok d →
      (Dictionary.ofText text (some m)).outcome = .ok e →
        d.nodeId = some n ∧ e.nodeId = some m ∧ d.Shifts ((m.toNat : Int) - n.toNat) e := by
  constructor
  · intro d hd n
    obtain ⟨sheet, hsheet, hd⟩ := Dictionary.outcome_ofText_eq_ok_iff.1 hd
    exact Dictionary.outcome_ofText_eq_ok_iff.2 ⟨sheet, hsheet, Dictionary.ofSheet_at hd (some n)⟩
  · intro n m d e hd he
    obtain ⟨sheet, hsheet, hd⟩ := Dictionary.outcome_ofText_eq_ok_iff.1 hd
    obtain ⟨sheet', hsheet', he⟩ := Dictionary.outcome_ofText_eq_ok_iff.1 he
    cases hsheet.symm.trans hsheet'
    exact Dictionary.ofSheet_shifts hd he

/-- An identifier relative to the node, read for two nodes, and a constant, read for none and for
one. -/
theorem node_reaches_relative_literals_identifier :
    (∃ d e, (Dictionary.ofText "[1400]\nDataType=7\nDefaultValue=$NODEID+0x200"
        (some 5)).outcome = .ok d ∧
      (Dictionary.ofText "[1400]\nDataType=7\nDefaultValue=$NODEID+0x200"
        (some 9)).outcome = .ok e ∧ d.Shifts 4 e) ∧
    ∃ d, (Dictionary.ofText "[1400]\nDataType=7\nDefaultValue=0x205" none).outcome = .ok d ∧
      (Dictionary.ofText "[1400]\nDataType=7\nDefaultValue=0x205" (some 5)).outcome =
        .ok { d with nodeId := some 5 } := by
  constructor
  · obtain ⟨d, hd⟩ := Report.exists_of_isSome (r := (Dictionary.ofText
      "[1400]\nDataType=7\nDefaultValue=$NODEID+0x200" (some 5)).outcome) (by decide +kernel)
    obtain ⟨e, he⟩ := Report.exists_of_isSome (r := (Dictionary.ofText
      "[1400]\nDataType=7\nDefaultValue=$NODEID+0x200" (some 9)).outcome) (by decide +kernel)
    obtain ⟨-, -, h⟩ := (node_reaches_relative_literals _).2 5 9 d e hd he
    exact ⟨d, e, hd, he, h⟩
  · obtain ⟨d, hd⟩ := Report.exists_of_isSome (r := (Dictionary.ofText
      "[1400]\nDataType=7\nDefaultValue=0x205" none).outcome) (by decide +kernel)
    exact ⟨d, hd, (node_reaches_relative_literals _).1 d hd 5⟩

end DataSheet
