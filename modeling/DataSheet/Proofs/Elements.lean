/-
**What stands at every subindex.**

A record gives the members that it stores.  An array that stores a template gives an element at
every subindex from one to 255, and makes those that it does not store.  This module says what a
look-up comes to at each of the subindices of sixteen bits, and that an element that was made may be
stored without any look-up telling.

Main definitions:

* `Group.Stores` — a variable is stored at a subindex;
* `Variable.MadeAt` — a variable is what a template makes at a subindex;
* `Group.materialize` — stores the element at a subindex, if one is made there;
* `Group.ElementLaw`, `Dictionary.ElementLaw` — what arrays and dictionaries give.

Main results:

* `Group.element_eq_synthesized_iff` — when an element is made;
* `Variable.name_element_injective` — elements made at different subindices differ in their names;
* `Group.map_get_element_insert`, `Group.map_get_element_foldl_materialize` — **elements that are
  made may be stored without any look-up telling**;
* `elements_everywhere` — **arrays and dictionaries give an element or a reason at every subindex**.
-/

import DataSheet.Proofs.Digits
import DataSheet.Proofs.Sessions

set_option relaxedAutoImplicit false
set_option autoImplicit false

namespace DataSheet

/-! ### Elements and where they come from -/

/-- The group stores a variable at a subindex. -/
def Group.Stores (g : Group) (s : UInt16) (v : Variable) : Prop :=
  v ∈ g.members.items ∧ v.subindex.toUInt16 = s

/-- A variable at a subindex is made from a template: its name tells the subindex, it has no
configured value, and in all else it is like the template. -/
structure Variable.MadeAt (t : Variable) (s : UInt16) (v : Variable) : Prop where
  subindex : v.subindex.toUInt16 = s
  name : v.name = t.name ++ "_" ++ String.ofList (Nat.toDigits 16 s.toNat)
  parameterValue : v.parameterValue = none
  shared : v = { t with
    subindex := v.subindex, name := v.name, parameterValue := v.parameterValue }

/-- The group with the element at a subindex stored, if one is made there. -/
def Group.materialize (g : Group) (s : UInt16) : Group :=
  match g.element s with
  | .ok (.synthesized t k) => g.insert (t.element k)
  | _ => g

/-- What an array gives. -/
structure Group.ElementLaw (g : Group) : Prop where
  /-- What is stored is given as it is. -/
  stored : ∀ s v, g.Stores s v → g.element s = .ok (.stored v)
  /-- Where nothing is stored, an element is made from the first one. -/
  made : ∀ s t, (∀ v, ¬ g.Stores s v) → 1 ≤ s → s ≤ 255 → g.Stores 1 t →
    ∃ e, g.element s = .ok e ∧ e.isSynthesized ∧ t.MadeAt s e.get
  /-- Otherwise there is none, and the fault tells where it was looked for. -/
  refused : ∀ s, (∀ v, ¬ g.Stores s v) → ¬ (1 ≤ s ∧ s ≤ 255 ∧ ∃ t, g.Stores 1 t) →
    ∃ why, g.element s = .error (.badElement g.index s why)
  /-- Elements made at different subindices have different names. -/
  distinct : ∀ s s' e e', g.element s = .ok e → g.element s' = .ok e' → e.isSynthesized →
    e'.isSynthesized → s ≠ s' → e.get.name ≠ e'.get.name
  /-- If an element that was made is stored, all look-ups give what they gave before. -/
  transparent : ∀ s e, g.element s = .ok e → e.isSynthesized → ∀ u,
    ((g.insert e.get).element u).map Element.get = (g.element u).map Element.get
  /-- So they do if this is done at any subindices one after the other. -/
  materialized : ∀ (ss : List UInt16) u,
    ((ss.foldl Group.materialize g).element u).map Element.get = (g.element u).map Element.get

/-- What a dictionary gives at an index and a subindex. -/
structure Dictionary.ElementLaw (d : Dictionary) : Prop where
  missing : ∀ i s f, d.get (.index i) = .error f → d.element i s = .error f
  array : ∀ i s g, d.get (.index i) = .ok (.group g) → g.kind = .array →
    g.ElementLaw ∧ g.index = i ∧ d.element i s = g.element s
  record : ∀ i s g, d.get (.index i) = .ok (.group g) → g.kind = .record →
    (∀ v, g.Stores s v → d.element i s = .ok (.stored v)) ∧
      ((∀ v, ¬ g.Stores s v) → d.element i s = .error (.notFound (.member i s)))
  plain : ∀ i s v, d.get (.index i) = .ok (.plain v) →
    d.element i s = if s = 0 then .ok (.stored v) else .error (.notFound (.member i s))

/-! ### Names of elements -/

/-- A number that is not padded is written with its digits alone. -/
theorem Text.lowerHex_one (n : Nat) : lowerHex 1 n = String.ofList (Nat.toDigits 16 n) := by
  have hlength : 1 - (Nat.toDigits 16 n).length = 0 := by
    have hpos := List.length_pos_iff.2 (Nat.toDigits_ne_nil (n := n) (b := 16))
    omega
  rw [lowerHex, List.leftpad, hlength, List.replicate_zero, List.nil_append]

/-- A template gives its elements different names. -/
theorem Variable.name_element_injective (t : Variable) :
    Function.Injective fun k => (t.element k).name := by
  intro k k' h
  have hhex : Text.lowerHex 1 k.toNat = Text.lowerHex 1 k'.toNat := String.append_right_inj _ |>.1 h
  have hread := Text.number?_lowerHex 1 k.toNat
  rw [hhex, Text.number?_lowerHex, Option.some.injEq] at hread
  exact UInt8.toNat.inj hread.symm

theorem Variable.madeAt_element (t : Variable) (k : UInt8) : t.MadeAt k.toUInt16 (t.element k) where
  subindex := rfl
  name := by rw [UInt8.toNat_toUInt16, ← Text.lowerHex_one]; rfl
  parameterValue := rfl
  shared := rfl

/-! ### Look-up in a group -/

namespace Group

variable {g h : Group}

/-- A look-up depends on what is stored at the subindex and at the first one. -/
theorem element_congr (hkind : g.kind = h.kind) (hindex : g.index = h.index)
    (htemplate : g.template? = h.template?) {s : UInt16}
    (hstored : (narrow? s).bind g.member? = (narrow? s).bind h.member?) :
    g.element s = h.element s := by
  unfold element
  rw [hkind, hindex, htemplate, hstored]

/-- When an element is made. -/
theorem element_eq_synthesized_iff {s : UInt16} {t : Variable} {k : UInt8} :
    g.element s = .ok (.synthesized t k) ↔ g.kind = .array ∧
      (narrow? s).bind g.member? = none ∧ narrow? s = some k ∧ k ≠ 0 ∧ g.template? = some t := by
  unfold element
  cases (narrow? s).bind g.member? with
  | some v => simp
  | none =>
      cases g.kind with
      | record => simp
      | array =>
          cases narrow? s with
          | none => simp
          | some l =>
              dsimp only
              by_cases hl : l = 0
              · rw [if_pos hl]
                simp only [true_and, reduceCtorEq, Option.some.injEq, false_iff]
                rintro ⟨rfl, hk, -⟩
                exact hk hl
              · rw [if_neg hl]
                cases g.template? with
                | none => simp
                | some t' =>
                    simp only [Except.ok.injEq, Element.synthesized.injEq, true_and,
                      Option.some.injEq]
                    constructor
                    · rintro ⟨rfl, rfl⟩
                      exact ⟨rfl, hl, rfl⟩
                    · rintro ⟨rfl, -, rfl⟩
                      exact ⟨rfl, rfl⟩

/-- When an array gives none. -/
theorem element_refused (hkind : g.kind = .array) {s : UInt16}
    (hstored : (narrow? s).bind g.member? = none)
    (hnone : ∀ k, narrow? s = some k → k ≠ 0 → g.template? = none) :
    ∃ why, g.element s = .error (.badElement g.index s why) := by
  unfold element
  rw [hstored, hkind]
  dsimp only
  cases hs : narrow? s with
  | none => exact ⟨_, rfl⟩
  | some k =>
      dsimp only
      by_cases hk : k = 0
      · rw [if_pos hk]
        exact ⟨_, rfl⟩
      · rw [if_neg hk, hnone k hs hk]
        exact ⟨_, rfl⟩

/-- **An element that is made may be stored without any look-up telling.** -/
theorem map_get_element_insert {s : UInt16} {t : Variable} {k : UInt8}
    (he : g.element s = .ok (.synthesized t k)) (u : UInt16) :
    ((g.insert (t.element k)).element u).map Element.get = (g.element u).map Element.get := by
  obtain ⟨hkind, hunstored, hs, hk, htemplate⟩ := element_eq_synthesized_iff.1 he
  rw [hs, Option.bind_some] at hunstored
  by_cases hu : u = s
  · -- what was made is stored now
    subst hu
    have hstored : (narrow? u).bind (g.insert (t.element k)).member? = some (t.element k) := by
      rw [hs, Option.bind_some, member?_insert, if_pos (Variable.subindex_element t k)]
    rw [element_eq_stored_iff.2 hstored, he]
    rfl
  · -- the template is stored, so it is not what was made
    have hone : k ≠ templateSubindex := by
      rintro rfl
      cases hunstored.symm.trans htemplate
    have hother : (narrow? u).bind (g.insert (t.element k)).member? =
        (narrow? u).bind g.member? := by
      cases hl : narrow? u with
      | none => rfl
      | some l =>
          rw [Option.bind_some, Option.bind_some, member?_insert, if_neg]
          rw [Variable.subindex_element]
          rintro rfl
          exact hu ((narrow?_eq_some_iff.1 hl).symm.trans (narrow?_eq_some_iff.1 hs))
    have htemplates : (g.insert (t.element k)).template? = g.template? :=
      (member?_insert g _ _).trans (if_neg hone)
    have hsame : (g.insert (t.element k)).element u = g.element u :=
      element_congr (g := g.insert (t.element k)) (h := g) rfl rfl htemplates hother
    rw [hsame]

theorem map_get_element_materialize (g : Group) (s u : UInt16) :
    ((g.materialize s).element u).map Element.get = (g.element u).map Element.get := by
  unfold materialize
  split
  next t k he => exact map_get_element_insert he u
  next => rfl

/-- **Any number of elements that are made may be stored one after the other.** -/
theorem map_get_element_foldl_materialize (g : Group) (ss : List UInt16) (u : UInt16) :
    ((ss.foldl materialize g).element u).map Element.get = (g.element u).map Element.get := by
  induction ss generalizing g with
  | nil => rfl
  | cons s ss ih => rw [List.foldl_cons, ih, map_get_element_materialize]

/-! ### The law of elements -/

/-- A subindex from one to 255 is one of eight bits, and not zero. -/
theorem exists_narrow?_iff {s : UInt16} :
    (∃ k, narrow? s = some k ∧ k ≠ 0) ↔ 1 ≤ s ∧ s ≤ 255 := by
  simp only [narrow?_eq_some_iff, UInt16.le_iff_toNat_le]
  constructor
  · rintro ⟨k, rfl, hk⟩
    have hpos : k.toNat ≠ 0 := fun h => hk (UInt8.toNat.inj h)
    have hlt := k.toNat_lt
    rw [UInt8.toNat_toUInt16]
    constructor
    · change 1 ≤ k.toNat
      omega
    · change k.toNat ≤ 255
      omega
  · rintro ⟨hone, hle⟩
    change 1 ≤ s.toNat at hone
    change s.toNat ≤ 255 at hle
    have hs : s.toUInt8.toUInt16 = s := by
      refine UInt16.toNat.inj ?_
      rw [UInt8.toNat_toUInt16, UInt16.toNat_toUInt8]
      omega
    refine ⟨s.toUInt8, hs, fun hzero => ?_⟩
    rw [hzero] at hs
    subst hs
    exact absurd hone (by decide)

/-- Entering members leaves the kind of a group. -/
theorem kind_ofMembers (kind : GroupKind) (index : UInt16) (name description : String)
    (vs : List Variable) : (ofMembers kind index name description vs).kind = kind := by
  have hrun : ∀ g : Group, (vs.foldl insert g).kind = g.kind := by
    induction vs with
    | nil => exact fun g => rfl
    | cons v vs ih => exact fun g => ih (g.insert v)
  exact hrun _

/-- An assembled group stores what a look-up among its members finds. -/
theorem Assembled.stores_iff (hg : g.Assembled) {s : UInt16} {v : Variable} :
    g.Stores s v ↔ (narrow? s).bind g.member? = some v :=
  hg.bind_member?_eq_some_iff.symm

theorem Assembled.stores_one_iff (hg : g.Assembled) {t : Variable} :
    g.Stores 1 t ↔ g.template? = some t :=
  hg.stores_iff

theorem Assembled.forall_not_stores_iff (hg : g.Assembled) {s : UInt16} :
    (∀ v, ¬ g.Stores s v) ↔ (narrow? s).bind g.member? = none := by
  simp only [hg.stores_iff, Option.eq_none_iff_forall_not_mem, Option.mem_def]

/-- **An assembled array obeys the law of elements.** -/
theorem Assembled.elementLaw (hg : g.Assembled) (hkind : g.kind = .array) : g.ElementLaw where
  stored s v hv := element_eq_stored_iff.2 (hg.stores_iff.1 hv)
  made := by
    intro s t hunstored hone hle ht
    obtain ⟨k, hs, hk⟩ := exists_narrow?_iff.2 ⟨hone, hle⟩
    refine ⟨.synthesized t k, element_eq_synthesized_iff.2 ?_, rfl, ?_⟩
    · exact ⟨hkind, hg.forall_not_stores_iff.1 hunstored, hs, hk, hg.stores_one_iff.1 ht⟩
    · rw [← narrow?_eq_some_iff.1 hs]
      exact t.madeAt_element k
  refused := by
    intro s hunstored hnone
    refine element_refused hkind (hg.forall_not_stores_iff.1 hunstored) fun k hs hk => ?_
    obtain ⟨hone, hle⟩ := exists_narrow?_iff.1 ⟨k, hs, hk⟩
    refine Option.eq_none_iff_forall_not_mem.2 fun t ht => ?_
    exact hnone ⟨hone, hle, t, hg.stores_one_iff.2 ht⟩
  distinct := by
    intro s s' e e' he he' hmade hmade' hne
    cases e with
    | stored v => cases hmade
    | synthesized t k =>
        cases e' with
        | stored v => cases hmade'
        | synthesized t' k' =>
            obtain ⟨-, -, hs, -, ht⟩ := element_eq_synthesized_iff.1 he
            obtain ⟨-, -, hs', -, ht'⟩ := element_eq_synthesized_iff.1 he'
            -- both are made from the one template
            cases ht.symm.trans ht'
            intro hname
            cases t.name_element_injective hname
            exact hne ((narrow?_eq_some_iff.1 hs).symm.trans (narrow?_eq_some_iff.1 hs'))
  transparent := by
    intro s e he hmade
    cases e with
    | stored v => cases hmade
    | synthesized t k => exact map_get_element_insert he
  materialized := g.map_get_element_foldl_materialize

end Group

namespace Dictionary

variable {d : Dictionary} {i : UInt16}

theorem element_of_get_group {g : Group} (hg : d.get (.index i) = .ok (.group g)) (s : UInt16) :
    d.element i s = g.element s := by
  unfold element
  rw [hg]
  rfl

/-- **An assembled dictionary obeys the law of elements.** -/
theorem Assembled.elementLaw (hd : d.Assembled) : d.ElementLaw where
  missing := by
    intro i s f hf
    unfold element
    rw [hf]
    rfl
  array := by
    intro i s g hg hkind
    obtain ⟨hmem, hindex⟩ := (hd.ordered.found i _).1 hg
    have hassembled : g.Assembled := hd.objects _ hmem
    exact ⟨hassembled.elementLaw hkind, hindex, element_of_get_group hg s⟩
  record := by
    intro i s g hg hkind
    obtain ⟨hmem, hindex⟩ := (hd.ordered.found i _).1 hg
    have hassembled : g.Assembled := hd.objects _ hmem
    rw [element_of_get_group hg]
    constructor
    · exact fun v hv => Group.element_eq_stored_iff.2 (hassembled.stores_iff.1 hv)
    · intro hnone
      have hindex : g.index = i := hindex
      unfold Group.element
      rw [hassembled.forall_not_stores_iff.1 hnone, hkind, hindex]
  plain := by
    intro i s v hv
    unfold element
    rw [hv]
    rfl

end Dictionary

/-- **Arrays and dictionaries give an element or a reason at every subindex.**  This holds of every
array that members were entered into, and of every dictionary that a session leaves. -/
theorem elements_everywhere :
    (∀ (index : UInt16) (name description : String) (members : List Variable),
      (Group.ofMembers .array index name description members).ElementLaw) ∧
    ∀ actions, (Dictionary.ofSession actions).ElementLaw := by
  constructor
  · intro index name description members
    have hmembers := Group.members_ofMembers .array index name description members
    exact Group.Assembled.elementLaw (Group.assembled_iff.2 ⟨members, hmembers⟩)
      (Group.kind_ofMembers .array index name description members)
  · exact fun actions => (Dictionary.assembled_ofSession actions).elementLaw

end DataSheet
