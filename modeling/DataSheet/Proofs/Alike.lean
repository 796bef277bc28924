/-
**Registries that are alike.**

Two dictionaries read for different nodes hold items that differ, but only in ways that have nothing
to do with keys and names.  This module compares registries item by item, and shows that what is
done to both of them keeps them alike.  Registries that come about in different ways may hold the
very same items and differ in their memory of names; they are compared by what the names lead to.

Main definitions:

* `Registry.Respected` — related items have one key and one name;
* `Registry.Alike` — two registries have related items in one order, and one memory of names;
* `Registry.Same` — two registries have the same items, and their names lead to the same ones.

Main results:

* `Ascending.rel_find?`, `Ascending.rel_insert` — look-up in lists of related items, and entering
  related items into them;
* `Registry.Alike.find?` — look-up finds related items, or nothing in both;
* `Registry.Alike.insert`, `Registry.Alike.modify` — **entering and changing related items keeps
  registries alike**;
* `Registry.same_insert_insert` — an item that gives way at once leaves no trace.
-/

import DataSheet.Proofs.Registry
import Mathlib.Data.List.Forall2

set_option relaxedAutoImplicit false
set_option autoImplicit false

namespace DataSheet

/-! ### Lists with related items -/

namespace Ascending

variable {κ α β : Type} [DecidableEq κ] {R : α → β → Prop} {f : α → κ} {g : β → κ}

/-- Look-up finds related items, or nothing in both. -/
theorem rel_find? (hR : ∀ a b, R a b → f a = g b) {l : List α} {l' : List β}
    (h : List.Forall₂ R l l') (k : κ) : Option.Rel R (find? f k l) (find? g k l') := by
  induction h with
  | nil => exact .none
  | cons hab _ ih =>
      rw [find?_cons, find?_cons, hR _ _ hab]
      split
      · exact .some hab
      · exact ih

/-- Related items are entered at the same place. -/
theorem rel_insert [LT κ] [DecidableLT κ] (hR : ∀ a b, R a b → f a = g b) {a : α} {b : β}
    (hab : R a b) {l : List α} {l' : List β} (h : List.Forall₂ R l l') :
    List.Forall₂ R (insert f a l) (insert g b l') := by
  have hkey := hR a b hab
  induction h with
  | nil => exact .cons hab .nil
  | cons hcd htail ih =>
      unfold insert
      rw [hR _ _ hcd, hkey]
      split
      · exact .cons hab (.cons hcd htail)
      · split
        · exact .cons hab htail
        · exact .cons hcd ih

/-- An item gives way to one with its key that is entered after it. -/
theorem insert_insert [LT κ] [DecidableLT κ] [LE κ] [Std.IsLinearOrder κ] [Std.LawfulOrderLT κ]
    {a b : α} (hab : f a = f b) (l : List α) : insert f b (insert f a l) = insert f b l := by
  induction l with
  | nil => grind [insert]
  | cons c l ih =>
      simp only [insert, hab]
      grind [insert]

end Ascending

open Registered (key name)

/-! ### Registries -/

namespace Registry

variable {κ α : Type}

/-- Two registries have related items in one order, and their names lead to the same keys. -/
structure Alike (R : α → α → Prop) (r s : Registry κ α) : Prop where
  items : List.Forall₂ R r.items s.items
  holders : r.holders = s.holders

/-- The last items of related lists are related. -/
theorem rel_getLast? {R : α → α → Prop} {l l' : List α} (h : List.Forall₂ R l l') :
    Option.Rel R l.getLast? l'.getLast? := by
  have hreverse := List.rel_reverse h
  rw [List.getLast?_eq_head?_reverse, List.getLast?_eq_head?_reverse]
  generalize l.reverse = m, l'.reverse = m' at hreverse
  cases hreverse with
  | nil => exact .none
  | cons hab _ => exact .some hab

variable [Registered κ α]

/-- Related items have one key and one name. -/
def Respected (R : α → α → Prop) : Prop := ∀ a b, R a b → key a = key b ∧ name a = name b

variable {R : α → α → Prop} {r s : Registry κ α} {a b : α}

omit [Registered κ α] in
theorem alike_empty : Alike R (empty : Registry κ α) empty := ⟨.nil, rfl⟩

omit [Registered κ α] in
theorem Alike.holder? (h : Alike R r s) (n : String) : r.holder? n = s.holder? n := by
  unfold Registry.holder?
  rw [h.holders]

variable [DecidableEq κ]

theorem Alike.find? (hR : Respected R) (h : Alike R r s) (k : κ) :
    Option.Rel R (r.find? k) (s.find? k) :=
  Ascending.rel_find? (fun a b hab => (hR a b hab).1) h.items k

/-- The items to which a name falls back are related. -/
theorem Alike.substitute? (hR : Respected R) (h : Alike R r s) (k : κ) (n : String) :
    Option.Rel R (r.substitute? k n) (s.substitute? k n) := by
  refine rel_getLast? (List.rel_filter (fun a b hab => ?_) (List.rel_filter (fun a b hab => ?_)
    h.items))
  · simp only [(hR a b hab).2]
  · simp only [(hR a b hab).1]

theorem Alike.nameOf? (hR : Respected R) (h : Alike R r s) (k : κ) :
    r.nameOf? k = s.nameOf? k := by
  have hname : (r.find? k).map name = (s.find? k).map name := by
    have hfind := h.find? hR k
    generalize r.find? k = o, s.find? k = o' at hfind
    cases hfind with
    | none => rfl
    | some hab => exact congrArg some (hR _ _ hab).2
  unfold Registry.nameOf?
  simp only [hname, h.holder?]

/-- Where an item gives way, names fall back to the same keys. -/
theorem Alike.fallBack (hR : Respected R) (h : Alike R r s) (k : κ) :
    r.fallBack k = s.fallBack k := by
  have hname := h.nameOf? hR k
  cases hn : s.nameOf? k with
  | none =>
      rw [fallBack_of_nameOf?_none (hname.trans hn), fallBack_of_nameOf?_none hn, h.holders]
  | some n =>
      rw [fallBack_of_nameOf? (hname.trans hn), fallBack_of_nameOf? hn, h.holders]
      have hsubstitute := h.substitute? hR k n
      generalize r.substitute? k n = t, s.substitute? k n = t' at hsubstitute
      cases hsubstitute with
      | none => rfl
      | some htt => exact congrArg (assign n · s.holders) (hR _ _ htt).1

variable [LT κ] [DecidableLT κ]

/-- Entering related items keeps registries alike. -/
theorem Alike.insert (hR : Respected R) (h : Alike R r s) (hab : R a b) :
    Alike R (r.insert a) (s.insert b) where
  items := Ascending.rel_insert (fun a b hab => (hR a b hab).1) hab h.items
  holders := by
    unfold Registry.insert
    rw [(hR a b hab).1, (hR a b hab).2, h.fallBack hR]

omit [LT κ] [DecidableLT κ] in
/-- Changing items in the same way keeps registries alike. -/
theorem Alike.modify (hR : Respected R) (h : Alike R r s) {k : κ} {f g : α → α}
    (hfg : ∀ a b, R a b → R (f a) (g b)) : Alike R (r.modify k f) (s.modify k g) where
  items := by
    refine List.rel_map (fun a b hab => ?_) h.items
    rw [(hR a b hab).1]
    split
    · exact hfg a b hab
    · exact hab
  holders := h.holders

omit [LT κ] [DecidableLT κ] in
/-- Changing items on one side only relates them in another way. -/
theorem Alike.modify_left (h : Alike R r s) {k : κ} {f : α → α} {Q : α → α → Prop}
    (hf : ∀ a b, R a b → Q (if key a = k then f a else a) b) : Alike Q (r.modify k f) s where
  items := List.forall₂_map_left_iff.2 (h.items.imp hf)
  holders := h.holders

/-! ### Registries that give the same answers -/

/-- Two registries have the same items, and every name leads to the same key. -/
structure Same (r s : Registry κ α) : Prop where
  items : r.items = s.items
  leads : ∀ n, r.holder? n = s.holder? n

omit [LT κ] [DecidableLT κ] [DecidableEq κ] [Registered κ α] in
theorem Same.refl (r : Registry κ α) : r.Same r := ⟨rfl, fun _ => rfl⟩

omit [LT κ] [DecidableLT κ] in
theorem Same.findByName? (h : r.Same s) (n : String) : r.findByName? n = s.findByName? n := by
  unfold Registry.findByName? Registry.find?
  rw [h.leads, h.items]

/-- Registries that give the same answers do so after an item is entered. -/
theorem Same.insert (h : r.Same s) (a : α) : (r.insert a).Same (s.insert a) where
  items := congrArg (Ascending.insert key a) h.items
  leads := by
    intro n
    have hname : r.nameOf? (key a) = s.nameOf? (key a) := by
      unfold Registry.nameOf? Registry.find?
      simp only [h.items, h.leads]
    have hsubstitute : ∀ m, r.substitute? (key a) m = s.substitute? (key a) m := by
      intro m
      unfold Registry.substitute? Registry.others
      rw [h.items]
    rw [holder?_insert, holder?_insert, hname, hsubstitute, h.leads]

/-- Entering an item where there is none of its key. -/
theorem holder?_insert_of_none {a : α} (h : r.find? (key a) = none) (n : String) :
    (r.insert a).holder? n = if name a = n then some (key a) else r.holder? n := by
  have hname : r.nameOf? (key a) = none := by
    unfold Registry.nameOf?
    rw [h]
    rfl
  rw [holder?_insert, hname]
  rfl

variable [LE κ] [Std.IsLinearOrder κ] [Std.LawfulOrderLT κ]

/-- **An item that gives way at once leaves no trace**, if it is the second to be entered. -/
theorem same_insert_insert {a b c : α} (hab : key a = key b) (hcb : key c ≠ key b) :
    (((empty.insert c).insert a).insert b : Registry κ α).Same ((empty.insert c).insert b) where
  items := Ascending.insert_insert hab [c]
  leads := by
    intro n
    have hone : ∀ m, (empty.insert c : Registry κ α).holder? m =
        if name c = m then some (key c) else none := holder?_insert_of_none (r := empty) rfl
    have hnone : (empty.insert c : Registry κ α).find? (key b) = none := by
      rw [find?_insert, if_neg hcb]
      rfl
    have htwo := holder?_insert_of_none (r := empty.insert c) (a := a) (hab ▸ hnone)
    -- the item that gives way is the one to which its name leads, so the name falls back
    have hname : ((empty.insert c).insert a : Registry κ α).nameOf? (key b) = some (name a) := by
      rw [nameOf?_eq_some_iff, htwo, if_pos rfl, find?_insert, if_pos hab, hab]
      exact ⟨⟨a, rfl, rfl⟩, rfl⟩
    have hothers : ((empty.insert c).insert a : Registry κ α).others (key b) = [c] := by
      unfold others
      change (Ascending.insert key a [c]).filter _ = [c]
      simp only [Ascending.insert]
      grind
    have hsubstitute : (((empty.insert c).insert a : Registry κ α).substitute? (key b) n).map key =
        if name c = n then some (key c) else none := by
      unfold substitute?
      rw [hothers]
      by_cases hc : name c = n <;> simp [hc]
    rw [holder?_insert_of_none hnone, holder?_insert, hname, hsubstitute, htwo, hone]
    grind

end Registry

end DataSheet
