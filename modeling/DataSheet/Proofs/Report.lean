/-
**Runs of steps.**

Most proofs about reading and emitting go along the steps of a run, and care for their outcomes
only.  This module says what the outcome of two steps in a row and of a run over a list is, in terms
of the outcomes of the single steps.

Main definitions:

* `Report.result?` — the value of a step that succeeds, whatever its notices and its fault.

Main results:

* `Report.outcome_bind_eq_ok_iff` — two steps in a row succeed exactly if each does;
* `Report.mapM_eq_ok_iff` — a run over a list succeeds exactly if each item gives its result;
* `Report.foldlM_keeps`, `Report.foldlM_rel` — **what every step keeps, a run keeps**, and what the
  steps of two runs keep between them, the runs keep;
* `Report.foldlM_follows`, `Report.foldlM_simulates` — a run does what another one does, if its
  steps do;
* `Report.foldlM_congr_of_ok` — a run that succeeds is the same run with steps that do the same;
* `Report.result?_bind`, `Report.result?_foldlM` — results of composed steps are composed results.
-/

import DataSheet.Report
import Mathlib.Data.List.Basic

set_option relaxedAutoImplicit false
set_option autoImplicit false

namespace DataSheet

namespace Report

variable {ν ε α β γ δ : Type}

/-! ### Runs that succeed -/

theorem bind_eq_ok_iff {r : Except ε α} {f : α → Except ε β} {b : β} :
    r >>= f = .ok b ↔ ∃ a, r = .ok a ∧ f a = .ok b := by
  cases r with
  | error e =>
      constructor
      · intro h; cases h
      · rintro ⟨a, ha, -⟩; cases ha
  | ok a =>
      constructor
      · intro h; exact ⟨a, rfl, h⟩
      · rintro ⟨a', ha, h⟩; cases ha; exact h

theorem map_eq_ok_iff {r : Except ε α} {f : α → β} {b : β} :
    r.map f = .ok b ↔ ∃ a, r = .ok a ∧ f a = b := by
  cases r <;> simp [Except.map]

/-- A run over a list succeeds exactly if each item gives its result. -/
theorem mapM_eq_ok_iff {f : α → Except ε β} {l : List α} {r : List β} :
    l.mapM f = .ok r ↔ l.map f = r.map .ok := by
  induction l generalizing r with
  | nil =>
      rw [List.mapM_nil, List.map_nil, eq_comm (a := []), List.map_eq_nil_iff]
      change Except.ok [] = Except.ok r ↔ _
      rw [Except.ok.injEq, eq_comm]
  | cons a l ih =>
      rw [List.mapM_cons, List.map_cons, bind_eq_ok_iff]
      constructor
      · rintro ⟨b, hb, h⟩
        obtain ⟨bs, hbs, h⟩ := bind_eq_ok_iff.1 h
        cases h
        rw [hb, ih.1 hbs, List.map_cons]
      · intro h
        cases r with
        | nil => cases h
        | cons b bs =>
            rw [List.map_cons, List.cons.injEq] at h
            exact ⟨b, h.1, bind_eq_ok_iff.2 ⟨bs, ih.2 h.2, rfl⟩⟩

/-- A run over items with one more between them gives one more result between theirs. -/
theorem mapM_append_cons_eq_ok_iff {f : α → Except ε β} {before after : List α} {x : α}
    {l : List β} : (before ++ x :: after).mapM f = .ok l ↔ ∃ first y rest,
      before.mapM f = .ok first ∧ f x = .ok y ∧ after.mapM f = .ok rest ∧
        first ++ y :: rest = l := by
  simp only [mapM_eq_ok_iff]
  rw [List.map_append, List.map_cons, eq_comm, List.map_eq_append_iff]
  constructor
  · rintro ⟨first, others, rfl, hfirst, hothers⟩
    obtain ⟨y, rest, rfl, hy, hrest⟩ := List.map_eq_cons_iff.1 hothers
    exact ⟨first, y, rest, hfirst.symm, hy.symm, hrest.symm, rfl⟩
  · rintro ⟨first, y, rest, hfirst, hy, hrest, rfl⟩
    exact ⟨first, y :: rest, rfl, hfirst.symm, by rw [List.map_cons, hy, hrest]⟩

theorem mapM_append_eq_ok_iff {f : α → Except ε β} {before after : List α} {l : List β} :
    (before ++ after).mapM f = .ok l ↔ ∃ first rest,
      before.mapM f = .ok first ∧ after.mapM f = .ok rest ∧ first ++ rest = l := by
  simp only [mapM_eq_ok_iff]
  rw [List.map_append, eq_comm, List.map_eq_append_iff]
  constructor
  · rintro ⟨first, rest, rfl, hfirst, hrest⟩
    exact ⟨first, rest, hfirst.symm, hrest.symm, rfl⟩
  · rintro ⟨first, rest, hfirst, hrest, rfl⟩
    exact ⟨first, rest, rfl, hfirst.symm, hrest.symm⟩

/-- What results share with their items, they share in order. -/
theorem map_eq_of_mapM {f : α → Except ε β} {γ : Type} {p : α → γ} {q : β → γ} {l : List α}
    {r : List β} (h : l.mapM f = .ok r) (hpq : ∀ a b, f a = .ok b → q b = p a) :
    r.map q = l.map p := by
  rw [mapM_eq_ok_iff] at h
  induction l generalizing r with
  | nil =>
      rw [List.map_nil, eq_comm, List.map_eq_nil_iff] at h
      rw [h]
      rfl
  | cons a l ih =>
      cases r with
      | nil => cases h
      | cons b bs =>
          rw [List.map_cons, List.map_cons, List.cons.injEq] at h
          rw [List.map_cons, List.map_cons, hpq a b h.1, ih h.2]

/-- Two steps in a row succeed exactly if the first does, and the second does on its value. -/
theorem outcome_bind_eq_ok_iff {r : Report ν ε α} {f : α → Report ν ε β} {b : β} :
    (r >>= f).outcome = .ok b ↔ ∃ a, r.outcome = .ok a ∧ (f a).outcome = .ok b := by
  rw [outcome_bind, bind_eq_ok_iff]

/-- **What every step keeps, a run keeps.** -/
theorem foldlM_keeps {P : β → Prop} {f : β → α → Report ν ε β} {l : List α}
    (step : ∀ b a b', a ∈ l → P b → (f b a).outcome = .ok b' → P b') :
    ∀ {b b' : β}, P b → (l.foldlM f b).outcome = .ok b' → P b' := by
  induction l with
  | nil =>
      intro b b' hb h
      simp only [List.foldlM_nil, outcome_pure, Except.ok.injEq] at h
      exact h ▸ hb
  | cons a l ih =>
      intro b b' hb h
      rw [List.foldlM_cons, outcome_bind_eq_ok_iff] at h
      obtain ⟨c, hc, h⟩ := h
      have hPc : P c := step b a c List.mem_cons_self hb hc
      exact ih (fun b a b' ha => step b a b' (List.mem_cons_of_mem _ ha)) hPc h

/-- What two runs over one list keep between them in every step, they keep. -/
theorem foldlM_rel {R : β → γ → Prop} {f : β → α → Report ν ε β} {g : γ → α → Report ν ε γ}
    {l : List α} (step : ∀ a b c b' c', R b c → (f b a).outcome = .ok b' →
      (g c a).outcome = .ok c' → R b' c') :
    ∀ {b c b' c'}, R b c → (l.foldlM f b).outcome = .ok b' → (l.foldlM g c).outcome = .ok c' →
      R b' c' := by
  induction l with
  | nil =>
      intro b c b' c' hbc hb hc
      cases hb
      cases hc
      exact hbc
  | cons a l ih =>
      intro b c b' c' hbc hb hc
      rw [List.foldlM_cons, outcome_bind_eq_ok_iff] at hb hc
      obtain ⟨b₁, hb₁, hb⟩ := hb
      obtain ⟨c₁, hc₁, hc⟩ := hc
      exact ih (step a b c b₁ c₁ hbc hb₁ hc₁) hb hc

/-- A run does what another one does if each of its steps does. -/
theorem foldlM_follows {P : β → Prop} {T : β → γ} {f : β → α → Report ν ε β}
    {g : γ → α → Report ν ε γ} {l : List α}
    (step : ∀ a b b', P b → (f b a).outcome = .ok b' →
      P b' ∧ (g (T b) a).outcome = .ok (T b')) :
    ∀ {b b'}, P b → (l.foldlM f b).outcome = .ok b' →
      P b' ∧ (l.foldlM g (T b)).outcome = .ok (T b') := by
  induction l with
  | nil =>
      intro b b' hb h
      cases h
      exact ⟨hb, rfl⟩
  | cons a l ih =>
      intro b b' hb h
      rw [List.foldlM_cons, outcome_bind_eq_ok_iff] at h
      obtain ⟨c, hc, h⟩ := h
      obtain ⟨hPc, hgc⟩ := step a b c hb hc
      obtain ⟨hPb', hgb'⟩ := ih hPc h
      refine ⟨hPb', ?_⟩
      rw [List.foldlM_cons, outcome_bind_eq_ok_iff]
      exact ⟨T c, hgc, hgb'⟩

/-- A run does what another one does over other items or fewer, if each of its steps does or is left
out. -/
theorem foldlM_simulates {R : β → γ → Prop} {f : β → α → Report ν ε β}
    {g : γ → δ → Report ν ε γ} {r : α → Option δ} {l : List α}
    (step : ∀ a ∈ l, ∀ b c b', R b c → (f b a).outcome = .ok b' →
      ∃ c', ((r a).elim (pure c) (g c)).outcome = .ok c' ∧ R b' c') :
    ∀ {b c b'}, R b c → (l.foldlM f b).outcome = .ok b' →
      ∃ c', ((l.filterMap r).foldlM g c).outcome = .ok c' ∧ R b' c' := by
  induction l with
  | nil =>
      intro b c b' hbc h
      cases h
      exact ⟨c, rfl, hbc⟩
  | cons a l ih =>
      intro b c b' hbc h
      rw [List.foldlM_cons, outcome_bind_eq_ok_iff] at h
      obtain ⟨b₁, hb₁, h⟩ := h
      obtain ⟨c₁, hc₁, hbc₁⟩ := step a List.mem_cons_self b c b₁ hbc hb₁
      obtain ⟨c', hc', hbc'⟩ := ih (fun x hx => step x (List.mem_cons_of_mem a hx)) hbc₁ h
      refine ⟨c', ?_, hbc'⟩
      cases hr : r a with
      | none =>
          rw [hr] at hc₁
          cases hc₁
          rw [List.filterMap_cons_none hr]
          exact hc'
      | some x =>
          rw [hr] at hc₁
          rw [List.filterMap_cons_some hr, List.foldlM_cons, outcome_bind_eq_ok_iff]
          exact ⟨c₁, hc₁, hc'⟩

/-- A run whose steps change nothing. -/
theorem foldlM_skips {f : β → α → Report ν ε β} {l : List α}
    (step : ∀ a ∈ l, ∀ b, (f b a).outcome = .ok b) (b : β) : (l.foldlM f b).outcome = .ok b := by
  induction l with
  | nil => rfl
  | cons a l ih =>
      rw [List.foldlM_cons, outcome_bind_eq_ok_iff]
      exact ⟨b, step a List.mem_cons_self b, ih fun x hx => step x (List.mem_cons_of_mem a hx)⟩

/-! ### Steps that succeed -/

/-- What goes on from a step that succeeds goes on from its value. -/
theorem bind_eq_of_ok {r : Report ν ε α} {a : α} (h : r.outcome = .ok a)
    (k : α → Report ν ε β) : r >>= k = notes r.notices >>= fun _ => k a := by
  obtain ⟨ns, r⟩ := r
  dsimp only at h
  subst h
  rfl

/-- Steps that succeed in one way go on in the same way. -/
theorem bind_congr_of_ok {r : Report ν ε α} {k k' : α → Report ν ε β} {b : β}
    (h : (r >>= k).outcome = .ok b)
    (hk : ∀ a, r.outcome = .ok a → (k a).outcome = .ok b → k' a = k a) : r >>= k' = r >>= k := by
  obtain ⟨a, ha, hb⟩ := outcome_bind_eq_ok_iff.1 h
  rw [bind_eq_of_ok ha, bind_eq_of_ok ha, hk a ha hb]

/-- A run that succeeds is the same run with steps that do the same where they succeed. -/
theorem foldlM_congr_of_ok {f g : β → α → Report ν ε β}
    (hfg : ∀ b a b', (f b a).outcome = .ok b' → g b a = f b a) {l : List α} {b b' : β}
    (h : (l.foldlM f b).outcome = .ok b') : l.foldlM g b = l.foldlM f b := by
  induction l generalizing b with
  | nil => rfl
  | cons a l ih =>
      rw [List.foldlM_cons] at h
      obtain ⟨c, hc, -⟩ := outcome_bind_eq_ok_iff.1 h
      rw [List.foldlM_cons, List.foldlM_cons, hfg b a c hc]
      exact bind_congr_of_ok h fun c _ hrest => ih hrest

/-- An item on which every step is idle can be left out. -/
theorem foldlM_append_cons_of_idle {f : β → α → Report ν ε β} {x : α} (hx : ∀ b, f b x = pure b)
    (before after : List α) (b : β) :
    (before ++ x :: after).foldlM f b = (before ++ after).foldlM f b := by
  rw [List.foldlM_append, List.foldlM_append]
  refine congrArg (before.foldlM f b >>= ·) (funext fun c => ?_)
  rw [List.foldlM_cons, hx, pure_bind]

/-! ### Results -/

/-- The value of a step that succeeds. -/
def result? (r : Report ν ε α) : Option α := r.outcome.toOption

theorem toOption_eq_some_iff {r : Except ε α} {a : α} : r.toOption = some a ↔ r = .ok a := by
  cases r <;> simp [Except.toOption]

/-- Whether a step succeeds can be computed. -/
theorem exists_of_isSome {r : Except ε α} (h : r.toOption.isSome) : ∃ a, r = .ok a :=
  (Option.isSome_iff_exists.1 h).imp fun _ => toOption_eq_some_iff.1

theorem result?_eq_some_iff {r : Report ν ε α} {a : α} :
    r.result? = some a ↔ r.outcome = .ok a := toOption_eq_some_iff

/-- A run over a list gives the results that its items give. -/
theorem toOption_mapM (f : α → Except ε β) (l : List α) :
    (l.mapM f).toOption = l.mapM fun a => (f a).toOption := by
  induction l with
  | nil => rfl
  | cons a l ih =>
      rw [List.mapM_cons, List.mapM_cons, ← ih]
      cases f a with
      | error e => rfl
      | ok b => cases l.mapM f <;> rfl

@[simp] theorem result?_ofExcept (r : Except ε α) :
    (ofExcept r : Report ν ε α).result? = r.toOption := rfl

theorem toOption_bind (r : Except ε α) (f : α → Except ε β) :
    (r >>= f).toOption = r.toOption.bind fun a => (f a).toOption := by
  cases r <;> rfl

/-- The result of two steps in a row. -/
@[simp] theorem result?_bind (r : Report ν ε α) (f : α → Report ν ε β) :
    (r >>= f).result? = r.result?.bind fun a => (f a).result? := by
  simp only [result?, outcome_bind, toOption_bind]

/-- The result of a run is the run of the results. -/
theorem result?_foldlM (f : β → α → Report ν ε β) (l : List α) :
    ∀ b, (l.foldlM f b).result? = l.foldlM (fun b a => (f b a).result?) b := by
  induction l with
  | nil => intro b; rfl
  | cons a l ih =>
      intro b
      simp only [List.foldlM_cons, result?_bind, ih]
      rfl

end Report

end DataSheet
