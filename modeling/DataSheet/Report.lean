/-
**Outcomes with notices.**

A step of reading or emitting ends in a value or in a fault, and on the way it may post notices for
whoever follows the work.  Notices are kept in the order in which they were posted, and a step that
ends in a fault keeps those posted before it.

Main definitions:

* `Report` — the notices of a step and its outcome;
* `Report.note`, `Report.fail`, `Report.ofExcept` — a step that only posts, only fails, or posts
  nothing.

Main results:

* `Report.outcome_bind` — the outcome of two steps is that of their outcomes, whatever the notices;
* `Report.notices_bind` — the second step posts after the first, and only if the first succeeds.
-/

set_option relaxedAutoImplicit false
set_option autoImplicit false

namespace DataSheet

/-- The outcome of a step and the notices posted on the way to it, earliest first. -/
structure Report (ν ε α : Type) where
  notices : List ν
  outcome : Except ε α

namespace Report

variable {ν ε α β : Type}

/-- The step that ends in `a` and posts nothing. -/
protected def pure (a : α) : Report ν ε α := ⟨[], .ok a⟩

/-- Goes on with `f` where the first step succeeds. -/
protected def bind (r : Report ν ε α) (f : α → Report ν ε β) : Report ν ε β :=
  match r.outcome with
  | .error e => ⟨r.notices, .error e⟩
  | .ok a => ⟨r.notices ++ (f a).notices, (f a).outcome⟩

instance : Monad (Report ν ε) where
  pure := Report.pure
  bind := Report.bind

/-- Posts one notice. -/
def note (n : ν) : Report ν ε Unit := ⟨[n], .ok ()⟩

/-- Posts `ns` in their order. -/
def notes (ns : List ν) : Report ν ε Unit := ⟨ns, .ok ()⟩

/-- Ends in the fault `e`. -/
def fail (e : ε) : Report ν ε α := ⟨[], .error e⟩

/-- A step without notices. -/
def ofExcept (r : Except ε α) : Report ν ε α := ⟨[], r⟩

/-! ### The outcome and the notices of composed steps -/

@[simp] theorem outcome_pure (a : α) : (pure a : Report ν ε α).outcome = .ok a := rfl
@[simp] theorem outcome_ofExcept (r : Except ε α) : (ofExcept r : Report ν ε α).outcome = r := rfl

/-- Notices have no influence on an outcome. -/
@[simp] theorem outcome_bind (r : Report ν ε α) (f : α → Report ν ε β) :
    (r >>= f).outcome = r.outcome >>= fun a => (f a).outcome := by
  obtain ⟨ns, r⟩ := r
  cases r <;> rfl

theorem notices_bind (r : Report ν ε α) (f : α → Report ν ε β) :
    (r >>= f).notices =
      r.notices ++ match r.outcome with
        | .error _ => []
        | .ok a => (f a).notices := by
  obtain ⟨ns, r⟩ := r
  cases r with
  | error e => exact (List.append_nil ns).symm
  | ok a => rfl

instance : LawfulMonad (Report ν ε) :=
  LawfulMonad.mk' (Report ν ε)
    (fun ⟨ns, r⟩ => by
      cases r with
      | error e => rfl
      | ok a => exact congrArg (Report.mk · (Except.ok a)) (List.append_nil ns))
    (fun _ _ => rfl)
    (fun ⟨ns, r⟩ f g => by
      cases r with
      | error e => rfl
      | ok a =>
        change Report.bind (Report.bind ⟨ns, .ok a⟩ f) g =
          Report.bind ⟨ns, .ok a⟩ fun a => Report.bind (f a) g
        simp only [Report.bind]
        cases (f a).outcome <;> simp)

end Report

end DataSheet
