/-
**Where names lead in a registry.**

Several items of a registry may carry one name, and entering an item may take the place of the one
to which a name led.  This module says what entering an item and changing one in place do to every
name, and derives the invariant that all registries share.

Main definitions:

* `Registry.nameOf?` — the name of the item with a key, if it leads there;
* `Registry.substitute?` — the item to which a name falls back;
* `Registry.Highest`, `Registry.LeadsToHighest` — an item has the highest key that carries a name,
  and the name leads to it;
* `Registry.Sound` — the keys ascend, names lead to items that carry them, and every name carried
  leads somewhere.

Main results:

* `Registry.holder?_insert` — **what entering an item does to a name**;
* `Registry.leadsToHighest_insert_of_nameOf?` — a name that led to an item replaced leads to the
  highest key that still carries it;
* `Registry.Sound.insert`, `Registry.Sound.modify` — soundness is kept;
* `Registry.Sound.findByName?_eq` — a name with a single carrier leads to it.
-/

import DataSheet.Registry
import Mathlib.Data.List.Basic

set_option relaxedAutoImplicit false
set_option autoImplicit false

namespace DataSheet

open Registered (key name)

namespace Registry

variable {κ α : Type}

/-! ### Holders -/

theorem holder?_assign (items : List α) (m : String) (k : κ) (hs : List (String × κ))
    (n : String) : (⟨items, assign m k hs⟩ : Registry κ α).holder? n =
      if m = n then some k else (⟨items, hs⟩ : Registry κ α).holder? n := by
  by_cases h : m = n <;> simp [holder?, assign, h]

theorem holder?_release (items : List α) (m : String) (hs : List (String × κ)) (n : String) :
    (⟨items, release m hs⟩ : Registry κ α).holder? n =
      if m = n then none else (⟨items, hs⟩ : Registry κ α).holder? n := by
  induction hs with
  | nil => simp [holder?, release]
  | cons h hs ih =>
      simp only [holder?, release] at ih ⊢
      by_cases hm : h.1 = m <;> by_cases hn : h.1 = n <;> grind

section Holders

variable [Registered κ α]

/-- Makes a name lead to an item, or nowhere if there is none. -/
def settle (n : String) (a : Option α) (hs : List (String × κ)) : List (String × κ) :=
  match a with
  | none => release n hs
  | some a => assign n (key a) hs

theorem holder?_settle (items : List α) (m : String) (a : Option α) (hs : List (String × κ))
    (n : String) : (⟨items, settle m a hs⟩ : Registry κ α).holder? n =
      if m = n then a.map key else (⟨items, hs⟩ : Registry κ α).holder? n := by
  cases a with
  | none => exact holder?_release items m hs n
  | some a => exact holder?_assign items m (key a) hs n

variable [DecidableEq κ]

/-- The name of the item with key `k`, if it leads there. -/
def nameOf? (r : Registry κ α) (k : κ) : Option String :=
  ((r.find? k).map name).filter fun n => r.holder? n = some k

theorem nameOf?_eq_some_iff {r : Registry κ α} {k : κ} {n : String} :
    r.nameOf? k = some n ↔ (∃ a, r.find? k = some a ∧ name a = n) ∧ r.holder? n = some k := by
  simp only [nameOf?, Option.filter_eq_some_iff, Option.map_eq_some_iff, decide_eq_true_eq]

/-- The item with the highest key among those that carry a name and do not have the key `k`. -/
def substitute? (r : Registry κ α) (k : κ) (n : String) : Option α :=
  ((r.others k).filter fun a => name a = n).getLast?

theorem mem_substitutes {r : Registry κ α} {k : κ} {n : String} {b : α} :
    b ∈ (r.others k).filter (fun a => name a = n) ↔
      b ∈ r.items ∧ key b ≠ k ∧ name b = n := by
  simp only [others, List.mem_filter, decide_eq_true_eq, and_assoc]

theorem fallBack_of_nameOf? {r : Registry κ α} {k : κ} {n : String} (h : r.nameOf? k = some n) :
    r.fallBack k = settle n (r.substitute? k n) r.holders := by
  obtain ⟨⟨a, ha, rfl⟩, hk⟩ := nameOf?_eq_some_iff.1 h
  unfold fallBack settle substitute?
  rw [ha]
  exact if_pos hk

theorem fallBack_of_nameOf?_none {r : Registry κ α} {k : κ} (h : r.nameOf? k = none) :
    r.fallBack k = r.holders := by
  unfold fallBack
  cases ha : r.find? k with
  | none => rfl
  | some a =>
      refine if_neg fun hk => ?_
      have : r.nameOf? k = some (name a) := nameOf?_eq_some_iff.2 ⟨⟨a, ha, rfl⟩, hk⟩
      rw [h] at this
      cases this

/-- A name that leads to the key `k`, whose item carries it, leads to a substitute once that item
is gone.  All other names stay. -/
theorem holder?_fallBack (items : List α) (r : Registry κ α) (k : κ) (n : String) :
    (⟨items, r.fallBack k⟩ : Registry κ α).holder? n =
      if r.nameOf? k = some n then (r.substitute? k n).map key else r.holder? n := by
  cases hm : r.nameOf? k with
  | none =>
      rw [fallBack_of_nameOf?_none hm, if_neg (by simp)]
      rfl
  | some m =>
      rw [fallBack_of_nameOf? hm, holder?_settle]
      by_cases h : m = n
      · simp [h]
      · rw [if_neg h, if_neg (by simpa using h)]
        rfl

/-- **What entering an item does to a name**: the item's own name leads to it, a name that led to
the item replaced leads to a substitute, and all other names stay. -/
theorem holder?_insert [LT κ] [DecidableLT κ] (r : Registry κ α) (a : α) (n : String) :
    (r.insert a).holder? n =
      if name a = n then some (key a)
      else if r.nameOf? (key a) = some n then (r.substitute? (key a) n).map key
      else r.holder? n := by
  unfold insert
  rw [holder?_assign, holder?_fallBack]

/-! ### Items and their keys -/

theorem mem_of_find? {r : Registry κ α} {k : κ} {a : α} (h : r.find? k = some a) :
    a ∈ r.items ∧ key a = k := by
  have h : r.items.find? (fun a => key a = k) = some a := h
  exact ⟨List.mem_of_find?_eq_some h, by simpa using List.find?_some h⟩

/-- Where keys ascend, an item is found by its key. -/
theorem Ascends.find?_key [LT κ] [LE κ] [Std.IsLinearOrder κ] [Std.LawfulOrderLT κ]
    {r : Registry κ α} (h : r.Ascends) {a : α} (ha : a ∈ r.items) : r.find? (key a) = some a :=
  Ascending.find?_of_mem key h ha

/-- After an item is entered, a registry holds it and the old items with another key. -/
theorem mem_items_insert [LT κ] [DecidableLT κ] [LE κ] [Std.IsLinearOrder κ]
    [Std.LawfulOrderLT κ] {r : Registry κ α} (h : r.Ascends) {a b : α} :
    b ∈ (r.insert a).items ↔ b = a ∨ (b ∈ r.items ∧ key b ≠ key a) :=
  Ascending.mem_insert key a b r.items h

/-! ### Changes in place -/

/-- A function on items that keeps keys and names. -/
def Keeps (f : α → α) : Prop := ∀ a, key (f a) = key a ∧ name (f a) = name a

/-- A function that keeps keys and names still does if it is limited to one key. -/
theorem Keeps.at {f : α → α} (hf : Keeps f) (k : κ) :
    Keeps fun a => if key a = k then f a else a := by
  intro a
  dsimp only
  split
  · exact hf a
  · exact ⟨rfl, rfl⟩

theorem mem_items_modify {r : Registry κ α} {k : κ} {f : α → α} {b : α} :
    b ∈ (r.modify k f).items ↔ ∃ a ∈ r.items, (if key a = k then f a else a) = b :=
  List.mem_map

/-- A function that keeps keys still does if it is limited to one key. -/
theorem key_ite {f : α → α} (hf : ∀ a, key (f a) = key a) (k : κ) (a : α) :
    key (if key a = k then f a else a) = key a := by
  split
  · exact hf a
  · rfl

/-- A change in place that keeps keys is seen at its own key only. -/
theorem find?_modify_of_key {r : Registry κ α} {k : κ} {f : α → α}
    (hf : ∀ a, key (f a) = key a) (j : κ) :
    (r.modify k f).find? j = (r.find? j).map fun a => if key a = k then f a else a :=
  Ascending.find?_map (key_ite hf k) j r.items

theorem find?_modify {r : Registry κ α} {k : κ} {f : α → α} (hf : Keeps f) (j : κ) :
    (r.modify k f).find? j = (r.find? j).map fun a => if key a = k then f a else a :=
  find?_modify_of_key (fun a => (hf a).1) j

theorem Ascends.modify_of_key [LT κ] {r : Registry κ α} (h : r.Ascends) {k : κ} {f : α → α}
    (hf : ∀ a, key (f a) = key a) : (r.modify k f).Ascends := by
  refine List.pairwise_map.2 (List.Pairwise.imp ?_ h)
  intro a b hab
  rw [key_ite hf k a, key_ite hf k b]
  exact hab

theorem Ascends.modify [LT κ] {r : Registry κ α} (h : r.Ascends) {k : κ} {f : α → α}
    (hf : Keeps f) : (r.modify k f).Ascends :=
  h.modify_of_key fun a => (hf a).1

end Holders

/-! ### The highest key that carries a name -/

section Highest

variable [DecidableEq κ] [Registered κ α] [LE κ]

/-- The item `a` has the highest key among those that carry the name `n`. -/
structure Highest (r : Registry κ α) (n : String) (a : α) : Prop where
  mem : a ∈ r.items
  carries : name a = n
  highest : ∀ b ∈ r.items, name b = n → key b ≤ key a

/-- The name `n` leads to the highest key that carries it, and nowhere if none does. -/
def LeadsToHighest (r : Registry κ α) (n : String) : Prop :=
  match r.holder? n with
  | some k => ∃ a, r.Highest n a ∧ key a = k
  | none => ∀ a ∈ r.items, name a ≠ n

/-- A change in place leaves a name at the highest key. -/
theorem LeadsToHighest.modify {r : Registry κ α} {n : String} (hl : r.LeadsToHighest n) {k : κ}
    {f : α → α} (hf : Keeps f) : (r.modify k f).LeadsToHighest n := by
  have hholder : (r.modify k f).holder? n = r.holder? n := rfl
  unfold LeadsToHighest at hl ⊢
  rw [hholder]
  cases hk : r.holder? n with
  | none =>
      rw [hk] at hl
      intro b hb
      obtain ⟨a, ha, rfl⟩ := mem_items_modify.1 hb
      rw [(hf.at k a).2]
      exact hl a ha
  | some j =>
      rw [hk] at hl
      obtain ⟨t, ⟨ht, htn, htop⟩, rfl⟩ := hl
      refine ⟨_, ⟨mem_items_modify.2 ⟨t, ht, rfl⟩, by rw [(hf.at k t).2, htn], ?_⟩, (hf.at k t).1⟩
      intro b hb hbn
      obtain ⟨a, ha, rfl⟩ := mem_items_modify.1 hb
      rw [(hf.at k a).1, (hf.at k t).1]
      exact htop a ha ((hf.at k a).2 ▸ hbn)

variable [LT κ] [Std.IsLinearOrder κ] [Std.LawfulOrderLT κ]

omit [DecidableEq κ] in
/-- The last of a list with ascending keys has the highest key. -/
theorem key_le_of_getLast? {l : List α} (h : l.Pairwise fun x y => key x < key y) {t : α}
    (ht : l.getLast? = some t) : ∀ b ∈ l, key b ≤ key t := by
  obtain ⟨front, rfl⟩ := List.getLast?_eq_some_iff.1 ht
  intro b hb
  rw [List.pairwise_append] at h
  rcases List.mem_append.1 hb with hb | hb
  · exact Std.le_of_lt (h.2.2 b hb t (List.mem_singleton_self t))
  · rw [List.mem_singleton.1 hb]
    exact Std.le_refl _

variable [DecidableLT κ]

/-- A name that led to an item replaced leads to the highest key that still carries it. -/
theorem leadsToHighest_insert_of_nameOf? {r : Registry κ α} (h : r.Ascends) {a : α} {n : String}
    (ho : r.nameOf? (key a) = some n) (hn : name a ≠ n) : (r.insert a).LeadsToHighest n := by
  have hstill : ∀ b, b ∈ (r.insert a).items → name b = n →
      b ∈ (r.others (key a)).filter fun a => name a = n := by
    intro b hb hbn
    rcases (mem_items_insert h).1 hb with rfl | ⟨hb, hk⟩
    · exact absurd hbn hn
    · exact mem_substitutes.2 ⟨hb, hk, hbn⟩
  unfold LeadsToHighest
  rw [holder?_insert, if_neg hn, if_pos ho]
  cases hs : r.substitute? (key a) n with
  | none =>
      intro b hb hbn
      have hnil := List.getLast?_eq_none_iff.1 hs
      have := hstill b hb hbn
      rw [hnil] at this
      cases this
  | some t =>
      -- the substitute is the last of the carriers left, and their keys ascend
      obtain ⟨ht, hk, htn⟩ := mem_substitutes.1 (List.mem_of_getLast? hs)
      have hasc : ((r.others (key a)).filter fun a => name a = n).Pairwise
          fun x y => key x < key y := (List.Pairwise.filter _ h).filter _
      exact ⟨t, ⟨(mem_items_insert h).2 (.inr ⟨ht, hk⟩), htn,
        fun b hb hbn => key_le_of_getLast? hasc hs b (hstill b hb hbn)⟩, rfl⟩

/-- Entering an item under another name leaves a name at the highest key that carries it. -/
theorem LeadsToHighest.insert {r : Registry κ α} {n : String} (hl : r.LeadsToHighest n)
    (h : r.Ascends) {a : α} (hn : name a ≠ n) : (r.insert a).LeadsToHighest n := by
  by_cases ho : r.nameOf? (key a) = some n
  · exact leadsToHighest_insert_of_nameOf? h ho hn
  unfold LeadsToHighest at hl ⊢
  rw [holder?_insert, if_neg hn, if_neg ho]
  cases hk : r.holder? n with
  | none =>
      rw [hk] at hl
      intro b hb
      rcases (mem_items_insert h).1 hb with rfl | ⟨hb, -⟩
      · exact hn
      · exact hl b hb
  | some k =>
      rw [hk] at hl
      obtain ⟨t, ⟨ht, htn, htop⟩, rfl⟩ := hl
      -- were `t` the item replaced, the name would have led to it and fallen back
      have hne : key t ≠ key a := by
        intro he
        refine ho (nameOf?_eq_some_iff.2 ⟨⟨t, ?_, htn⟩, he ▸ hk⟩)
        exact he ▸ h.find?_key ht
      refine ⟨t, ⟨(mem_items_insert h).2 (.inr ⟨ht, hne⟩), htn, ?_⟩, rfl⟩
      intro b hb hbn
      rcases (mem_items_insert h).1 hb with rfl | ⟨hb, -⟩
      · exact absurd hbn hn
      · exact htop b hb hbn

end Highest

/-! ### Soundness -/

section Sound

variable [DecidableEq κ] [Registered κ α] [LT κ]

/-- The keys ascend, a name leads to an item that carries it, and every name carried leads
somewhere. -/
structure Sound (r : Registry κ α) : Prop where
  ascends : r.Ascends
  leads : ∀ {n k}, r.holder? n = some k → ∃ a, r.find? k = some a ∧ name a = n
  held : ∀ {a}, a ∈ r.items → (r.holder? (name a)).isSome

theorem sound_empty : (empty : Registry κ α).Sound where
  ascends := ascends_empty
  leads h := by cases h
  held h := by cases h

theorem Sound.modify {r : Registry κ α} (h : r.Sound) {k : κ} {f : α → α} (hf : Keeps f) :
    (r.modify k f).Sound where
  ascends := h.ascends.modify hf
  leads := by
    intro n j hj
    obtain ⟨a, ha, han⟩ := h.leads (n := n) hj
    refine ⟨if key a = k then f a else a, ?_, ?_⟩
    · rw [find?_modify hf, ha]
      rfl
    · rw [(hf.at k a).2, han]
  held := by
    intro b hb
    obtain ⟨a, ha, rfl⟩ := mem_items_modify.1 hb
    rw [(hf.at k a).2]
    exact h.held ha

/-- A name that no item carries leads nowhere. -/
theorem Sound.findByName?_eq_none {r : Registry κ α} (h : r.Sound) {n : String}
    (hn : ∀ a ∈ r.items, name a ≠ n) : r.findByName? n = none := by
  unfold findByName?
  cases hk : r.holder? n with
  | none => rfl
  | some k =>
      obtain ⟨a, ha, han⟩ := h.leads hk
      exact absurd han (hn a (mem_of_find? ha).1)

/-- A name with a single carrier leads to it. -/
theorem Sound.findByName?_eq {r : Registry κ α} (h : r.Sound) {n : String} {a : α}
    (ha : a ∈ r.items) (han : name a = n) (hone : ∀ b ∈ r.items, name b = n → b = a) :
    r.findByName? n = some a := by
  unfold findByName?
  have hheld := h.held ha
  rw [han] at hheld
  obtain ⟨k, hk⟩ := Option.isSome_iff_exists.1 hheld
  obtain ⟨b, hb, hbn⟩ := h.leads hk
  rw [hk, Option.bind_some, hb, hone b (mem_of_find? hb).1 hbn]

variable [DecidableLT κ] [LE κ] [Std.IsLinearOrder κ] [Std.LawfulOrderLT κ]

theorem Sound.insert {r : Registry κ α} (h : r.Sound) (a : α) : (r.insert a).Sound where
  ascends := ascends_insert r a h.ascends
  leads := by
    intro n k hk
    -- the name is the item's own, or falls back from the item replaced, or is not concerned
    by_cases hn : name a = n
    · rw [holder?_insert, if_pos hn, Option.some.injEq] at hk
      exact ⟨a, by rw [find?_insert, if_pos hk], hn⟩
    by_cases ho : r.nameOf? (key a) = some n
    · have hl := leadsToHighest_insert_of_nameOf? h.ascends ho hn
      unfold LeadsToHighest at hl
      rw [hk] at hl
      obtain ⟨t, ⟨ht, htn, -⟩, rfl⟩ := hl
      exact ⟨t, (ascends_insert r a h.ascends).find?_key ht, htn⟩
    · rw [holder?_insert, if_neg hn, if_neg ho] at hk
      obtain ⟨b, hb, hbn⟩ := h.leads hk
      refine ⟨b, ?_, hbn⟩
      -- had `b` been replaced, its key would have given up the name
      rw [find?_insert, if_neg, hb]
      rintro rfl
      exact ho (nameOf?_eq_some_iff.2 ⟨⟨b, hb, hbn⟩, hk⟩)
  held := by
    intro b hb
    by_cases hn : name a = name b
    · rw [holder?_insert, if_pos hn]
      rfl
    by_cases ho : r.nameOf? (key a) = some (name b)
    · have hl := leadsToHighest_insert_of_nameOf? h.ascends ho hn
      unfold LeadsToHighest at hl
      cases hk : (r.insert a).holder? (name b) with
      | none =>
          rw [hk] at hl
          exact absurd rfl (hl b hb)
      | some k => rfl
    · rw [holder?_insert, if_neg hn, if_neg ho]
      rcases (mem_items_insert h.ascends).1 hb with rfl | ⟨hb, -⟩
      · exact absurd rfl hn
      · exact h.held hb

end Sound

end Registry

end DataSheet
