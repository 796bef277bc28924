/-
**Names over whole histories.**

What a name leads to depends on everything that has happened to a dictionary or a group.  This
module follows a name through histories.  A name leads to the item last entered under it for as long
as that item keeps its place; once another item has taken the place, the name leads to the highest
key that still carries it.

Main definitions:

* `Registry.Change`, `Registry.ofHistory` — an item is entered, or one is changed in place and keeps
  its key and its name;
* `Registry.Stands` — the item last entered under a name still has its place;
* `Registry.standingKey` — its key, told change by change;
* `Registry.NameLaw` — what a look-up by name has to give;
* `Dictionary.ofHistory`, `Group.ofMembers` — the dictionary and the group that a history leaves.

Main results:

* `Registry.Settled.change` — **one change leaves a name where it belongs**;
* `Registry.settled_ofHistory` — so does every history;
* `Registry.standing_eq_some_iff` — the standing key is that of the standing item;
* `names_follow_history` — **dictionaries, records and arrays obey the law of names**.
-/

import DataSheet.Proofs.Passes
import Mathlib.Data.List.Induction

set_option relaxedAutoImplicit false
set_option autoImplicit false

namespace DataSheet

open Registered (key name)

namespace Registry

variable {κ α : Type} [DecidableEq κ] [Registered κ α]

/-! ### Histories -/

variable (κ α) in
/-- What may happen to a registry: an item is entered, or the item with a key is changed in place
and keeps its key and its name. -/
inductive Change
  | enter (a : α)
  | amend (k : κ) (f : α → α) (keeps : Keeps f)

/-- What a change makes of an item that it does not replace. -/
def Change.onItem (a : α) : Change κ α → α
  | enter _ => a
  | amend k f _ => if key a = k then f a else a

/-- The item that a history enters last under the name `n` keeps its place to the end, and has
become `a` there. -/
def Stands (n : String) (history : List (Change κ α)) (a : α) : Prop :=
  ∃ before b after, history = before ++ .enter b :: after ∧ name b = n ∧
    (∀ c, .enter c ∈ after → name c ≠ n ∧ key c ≠ key b) ∧ after.foldl Change.onItem b = a

/-- The law of names.  Nothing is found under a name that no item carries; the item last entered
under a name is found for as long as it keeps its place; after that, the item with the highest key
that carries the name is found. -/
structure NameLaw [LE κ] (items : List α) (n : String) (stands : α → Prop)
    (found : Except Fault α) : Prop where
  missing : (∀ a ∈ items, name a ≠ n) → found = .error (.notFound (.name n))
  standing : ∀ a, stands a → found = .ok a
  fallen : (∃ a ∈ items, name a = n) → (∀ a, ¬ stands a) →
    ∃ t ∈ items, name t = n ∧ (∀ a ∈ items, name a = n → key a ≤ key t) ∧ found = .ok t

variable [LT κ] [DecidableLT κ]

/-- The registry after a change. -/
def change (r : Registry κ α) : Change κ α → Registry κ α
  | .enter a => r.insert a
  | .amend k f _ => r.modify k f

/-- The registry that a history leaves. -/
def ofHistory (history : List (Change κ α)) : Registry κ α := history.foldl change empty

omit [LT κ] [DecidableLT κ] in
theorem key_onItem (a : α) (c : Change κ α) : key (c.onItem a) = key a := by
  cases c with
  | enter b => rfl
  | amend k f keeps => exact (keeps.at k a).1

/-- An item that is not replaced stays where it is, whatever else happens. -/
theorem find?_foldl_change {r : Registry κ α} {a : α} (history : List (Change κ α))
    (hf : r.find? (key a) = some a) (hkeep : ∀ c, .enter c ∈ history → key c ≠ key a) :
    (history.foldl change r).find? (key a) = some (history.foldl Change.onItem a) := by
  induction history generalizing r a with
  | nil => exact hf
  | cons c cs ih =>
      have hstep : (r.change c).find? (key a) = some (c.onItem a) := by
        cases c with
        | enter b =>
            have hb : key b ≠ key a := hkeep b List.mem_cons_self
            rw [change, find?_insert, if_neg hb, hf]
            rfl
        | amend k f keeps =>
            rw [change, find?_modify keeps, hf]
            rfl
      -- from here on the item to follow is what the change has made of `a`
      rw [← key_onItem a c] at hstep ⊢
      refine ih hstep fun b hb => ?_
      rw [key_onItem]
      exact hkeep b (List.mem_cons_of_mem c hb)

/-! ### The standing key -/

/-- The key of the item last entered under the name `n`, as long as that item keeps its place.  `k`
is what holds before the change. -/
def standingKey (n : String) (k : Option κ) : Change κ α → Option κ
  | .enter a => if name a = n then some (key a) else if k = some (key a) then none else k
  | .amend _ _ _ => k

/-- The standing key at the end of a history. -/
def standing (n : String) (history : List (Change κ α)) : Option κ :=
  history.foldl (standingKey n) none

omit [LT κ] [DecidableLT κ] in
theorem standing_concat (n : String) (history : List (Change κ α)) (c : Change κ α) :
    standing n (history ++ [c]) = standingKey n (standing n history) c := by
  simp [standing]

omit [LT κ] [DecidableLT κ] in
/-- A standing key stays as long as no item is entered under the name or at the key. -/
theorem foldl_standingKey {n : String} {k : κ} {after : List (Change κ α)}
    (hlast : ∀ c, .enter c ∈ after → name c ≠ n ∧ key c ≠ k) :
    after.foldl (standingKey n) (some k) = some k := by
  induction after with
  | nil => rfl
  | cons c after ih =>
      have hstep : standingKey n (some k) c = some k := by
        cases c with
        | enter a =>
            obtain ⟨hn, hk⟩ := hlast a List.mem_cons_self
            rw [standingKey, if_neg hn, if_neg]
            rw [Option.some.injEq]
            exact fun he => hk he.symm
        | amend j f keeps => rfl
      rw [List.foldl_cons, hstep]
      exact ih fun a ha => hlast a (List.mem_cons_of_mem c ha)

omit [LT κ] [DecidableLT κ] in
/-- A standing key comes from the item last entered under the name, and no later item is entered
there. -/
theorem exists_of_standing {n : String} {history : List (Change κ α)} {k : κ}
    (h : standing n history = some k) :
    ∃ before b after, history = before ++ .enter b :: after ∧ name b = n ∧ key b = k ∧
      ∀ c, .enter c ∈ after → name c ≠ n ∧ key c ≠ k := by
  induction history using List.reverseRecOn with
  | nil => cases h
  | append_singleton history c ih =>
      rw [standing_concat] at h
      -- either the change enters the item itself, or the item stood before and still does
      have hcases : (∃ a, c = .enter a ∧ name a = n ∧ key a = k) ∨ (standing n history = some k ∧
          ∀ a, c = .enter a → name a ≠ n ∧ key a ≠ k) := by
        cases c with
        | enter a =>
            by_cases hn : name a = n
            · rw [standingKey, if_pos hn, Option.some.injEq] at h
              exact .inl ⟨a, rfl, hn, h⟩
            by_cases hk : standing n history = some (key a)
            · rw [standingKey, if_neg hn, if_pos hk] at h
              cases h
            · rw [standingKey, if_neg hn, if_neg hk] at h
              refine .inr ⟨h, fun b hb => ?_⟩
              cases hb
              exact ⟨hn, fun he => hk (he ▸ h)⟩
        | amend j f keeps => exact .inr ⟨h, fun b hb => by cases hb⟩
      rcases hcases with ⟨a, rfl, hn, hk⟩ | ⟨hs, hc⟩
      · exact ⟨history, a, [], rfl, hn, hk, fun b hb => absurd hb List.not_mem_nil⟩
      · obtain ⟨before, b, after, rfl, hbn, hbk, hlast⟩ := ih hs
        refine ⟨before, b, after ++ [c], by simp, hbn, hbk, fun a ha => ?_⟩
        rcases List.mem_append.1 ha with ha | ha
        · exact hlast a ha
        · exact hc a (List.mem_singleton.1 ha).symm

omit [LT κ] [DecidableLT κ] in
/-- The standing key is the key of the item that a history enters last under the name, and that no
later item replaces. -/
theorem standing_eq_some_iff {n : String} {history : List (Change κ α)} {k : κ} :
    standing n history = some k ↔
      ∃ before b after, history = before ++ .enter b :: after ∧ name b = n ∧ key b = k ∧
        ∀ c, .enter c ∈ after → name c ≠ n ∧ key c ≠ k := by
  constructor
  · exact exists_of_standing
  · rintro ⟨before, b, after, rfl, hn, rfl, hlast⟩
    rw [standing, List.foldl_append, List.foldl_cons, standingKey, if_pos hn]
    exact foldl_standingKey hlast

variable [LE κ]

/-- The name `n` is where it belongs: at the standing key, or else at the highest. -/
def Settled (r : Registry κ α) (n : String) : Option κ → Prop
  | some k => r.holder? n = some k
  | none => r.LeadsToHighest n

variable [Std.IsLinearOrder κ] [Std.LawfulOrderLT κ]

theorem Sound.change {r : Registry κ α} (h : r.Sound) (c : Change κ α) : (r.change c).Sound := by
  cases c with
  | enter a => exact h.insert a
  | amend k f keeps => exact h.modify keeps

/-- **One change leaves a name where it belongs.** -/
theorem Settled.change {r : Registry κ α} (h : r.Sound) {n : String} {k : Option κ}
    (hs : r.Settled n k) (c : Change κ α) : (r.change c).Settled n (standingKey n k c) := by
  cases c with
  | enter a =>
      rw [Registry.change, standingKey]
      by_cases hn : name a = n
      · rw [if_pos hn]
        unfold Settled
        rw [holder?_insert, if_pos hn]
      rw [if_neg hn]
      cases k with
      | none =>
          rw [if_neg (by simp)]
          exact LeadsToHighest.insert hs h.ascends hn
      | some k =>
          have hk : r.holder? n = some k := hs
          by_cases he : k = key a
          · -- the standing item is replaced, so its name falls back to the highest key
            subst he
            rw [if_pos rfl]
            obtain ⟨b, hb, hbn⟩ := h.leads hk
            exact leadsToHighest_insert_of_nameOf? h.ascends
              (nameOf?_eq_some_iff.2 ⟨⟨b, hb, hbn⟩, hk⟩) hn
          · rw [if_neg (by simpa using he)]
            unfold Settled
            -- the name leads to `k` only, so no other key gives it up
            rw [holder?_insert, if_neg hn, if_neg, hk]
            intro ho
            have := (nameOf?_eq_some_iff.1 ho).2
            rw [hk, Option.some.injEq] at this
            exact he this
  | amend j f keeps =>
      cases k with
      | none => exact LeadsToHighest.modify hs keeps
      | some k => exact hs

theorem sound_foldl_change {r : Registry κ α} (h : r.Sound) (history : List (Change κ α)) :
    (history.foldl Registry.change r).Sound := by
  induction history generalizing r with
  | nil => exact h
  | cons c cs ih => exact ih (h.change c)

theorem settled_foldl_change {r : Registry κ α} (h : r.Sound) {n : String} {k : Option κ}
    (hs : r.Settled n k) (history : List (Change κ α)) :
    (history.foldl Registry.change r).Settled n (history.foldl (standingKey n) k) := by
  induction history generalizing r k with
  | nil => exact hs
  | cons c cs ih => exact ih (h.change c) (hs.change h c)

/-- Every history leaves a sound registry. -/
theorem sound_ofHistory (history : List (Change κ α)) : (ofHistory history).Sound :=
  sound_foldl_change sound_empty history

/-- **Every history leaves every name where it belongs.** -/
theorem settled_ofHistory (history : List (Change κ α)) (n : String) :
    (ofHistory history).Settled n (standing n history) := by
  refine settled_foldl_change sound_empty ?_ history
  intro a ha
  cases ha

/-! ### The law of names -/

/-- The answer to a look-up by name. -/
def answer (r : Registry κ α) (n : String) : Except Fault α :=
  match r.findByName? n with
  | some a => .ok a
  | none => .error (.notFound (.name n))

omit [LE κ] [Std.IsLinearOrder κ] [Std.LawfulOrderLT κ] in
theorem ofHistory_append_enter (before after : List (Change κ α)) (b : α) :
    ofHistory (before ++ .enter b :: after) =
      after.foldl Registry.change ((ofHistory before).insert b) := by
  rw [ofHistory, List.foldl_append, List.foldl_cons]
  rfl

/-- A standing item is found under its name. -/
theorem answer_of_stands {n : String} {history : List (Change κ α)} {a : α}
    (h : Stands n history a) : (ofHistory history).answer n = .ok a := by
  obtain ⟨before, b, after, rfl, hbn, hlast, rfl⟩ := h
  have hkey : standing n (before ++ .enter b :: after) = some (key b) :=
    standing_eq_some_iff.2 ⟨before, b, after, rfl, hbn, rfl, hlast⟩
  have hs := settled_ofHistory (before ++ .enter b :: after) n
  rw [hkey] at hs
  have hk : (ofHistory (before ++ .enter b :: after)).holder? n = some (key b) := hs
  have hf : (ofHistory (before ++ .enter b :: after)).find? (key b) =
      some (after.foldl Change.onItem b) := by
    rw [ofHistory_append_enter]
    refine find?_foldl_change after ?_ fun c hc => (hlast c hc).2
    rw [find?_insert, if_pos rfl]
  rw [answer, findByName?, hk, Option.bind_some, hf]

/-- Where no item stands, the item with the highest key is found. -/
theorem answer_of_not_stands {n : String} {history : List (Change κ α)}
    (hcarried : ∃ a ∈ (ofHistory history).items, name a = n)
    (hnone : ∀ a, ¬ Stands n history a) :
    ∃ t, (ofHistory history).Highest n t ∧ (ofHistory history).answer n = .ok t := by
  have hs := settled_ofHistory history n
  cases hk : standing n history with
  | some k =>
      -- a standing key is that of a standing item, and there is none
      obtain ⟨before, b, after, rfl, hbn, rfl, hlast⟩ := standing_eq_some_iff.1 hk
      exact absurd ⟨before, b, after, rfl, hbn, hlast, rfl⟩ (hnone _)
  | none =>
      rw [hk] at hs
      have hl : (ofHistory history).LeadsToHighest n := hs
      unfold LeadsToHighest at hl
      cases hh : (ofHistory history).holder? n with
      | none =>
          rw [hh] at hl
          obtain ⟨a, ha, han⟩ := hcarried
          exact absurd han (hl a ha)
      | some j =>
          rw [hh] at hl
          obtain ⟨t, ht, rfl⟩ := hl
          refine ⟨t, ht, ?_⟩
          have hf := (sound_ofHistory history).ascends.find?_key ht.mem
          rw [answer, findByName?, hh, Option.bind_some, hf]

/-- Every history leaves a registry that obeys the law of names. -/
theorem nameLaw_ofHistory (history : List (Change κ α)) (n : String) :
    NameLaw (ofHistory history).items n (Stands n history) ((ofHistory history).answer n) where
  missing h := by
    rw [answer, (sound_ofHistory history).findByName?_eq_none h]
  standing a h := answer_of_stands h
  fallen hcarried hnone := by
    obtain ⟨t, ht, hfound⟩ := answer_of_not_stands hcarried hnone
    exact ⟨t, ht.mem, ht.carries, ht.highest, hfound⟩

end Registry

/-! ### Dictionaries and groups -/

open Registry (Change NameLaw Stands)

theorem Dictionary.get_name (d : Dictionary) (n : String) :
    d.get (.name n) = d.registry.answer n := by
  unfold Dictionary.get Registry.answer
  dsimp only
  cases d.registry.findByName? n <;> rfl

theorem Group.memberNamed_eq (g : Group) (n : String) : g.memberNamed n = g.members.answer n := by
  unfold Group.memberNamed Registry.answer
  cases g.members.findByName? n <;> rfl

/-- The dictionary after a change. -/
def Dictionary.change (d : Dictionary) : Change UInt16 Object → Dictionary
  | .enter o => d.insert o
  | .amend i f _ => d.modify i f

/-- The dictionary that a history leaves. -/
def Dictionary.ofHistory (history : List (Change UInt16 Object)) : Dictionary :=
  history.foldl Dictionary.change .empty

/-- Entering a member into the group at an index is a change in place. -/
theorem Dictionary.insertMember_eq_change (d : Dictionary) (index : UInt16) (v : Variable) :
    d.insertMember index v = d.change (.amend index (Object.attach v) (Object.keeps_attach v)) :=
  d.insertMember_eq_modify index v

theorem Dictionary.registry_ofHistory (history : List (Change UInt16 Object)) :
    (Dictionary.ofHistory history).registry = Registry.ofHistory history := by
  have hrun : ∀ d : Dictionary, (history.foldl Dictionary.change d).registry =
      history.foldl Registry.change d.registry := by
    induction history with
    | nil => intro d; rfl
    | cons c cs ih =>
        intro d
        rw [List.foldl_cons, ih, List.foldl_cons]
        cases c <;> rfl
  exact hrun .empty

/-- The group that members leave which are entered one after the other. -/
def Group.ofMembers (kind : GroupKind) (index : UInt16) (name description : String)
    (vs : List Variable) : Group :=
  vs.foldl Group.insert ⟨kind, index, name, description, .empty⟩

theorem Group.members_ofMembers (kind : GroupKind) (index : UInt16) (name description : String)
    (vs : List Variable) : (Group.ofMembers kind index name description vs).members =
      Registry.ofHistory (vs.map .enter) := by
  have hrun : ∀ g : Group, (vs.foldl Group.insert g).members =
      (vs.map .enter).foldl Registry.change g.members := by
    induction vs with
    | nil => intro g; rfl
    | cons v vs ih => intro g; exact ih (g.insert v)
  exact hrun _

/-- **Dictionaries, records and arrays obey the law of names.**  A dictionary may have been changed
in any way that keeps the index and the name of an object, as entering a member does. -/
theorem names_follow_history (n : String) :
    (∀ history : List (Change UInt16 Object),
      NameLaw (Dictionary.ofHistory history).objects n (Stands n history)
        ((Dictionary.ofHistory history).get (.name n))) ∧
    ∀ (kind : GroupKind) (index : UInt16) (name description : String) (vs : List Variable),
      NameLaw (Group.ofMembers kind index name description vs).members.items n
        (Stands n (vs.map .enter))
        ((Group.ofMembers kind index name description vs).memberNamed n) := by
  constructor
  · intro history
    rw [Dictionary.get_name, Dictionary.objects, Dictionary.registry_ofHistory]
    exact Registry.nameLaw_ofHistory history n
  · intro kind index name description vs
    rw [Group.memberNamed_eq, Group.members_ofMembers]
    exact Registry.nameLaw_ofHistory (vs.map .enter) n

end DataSheet
