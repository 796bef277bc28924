/-
**Steps with guards.**

A machine cuts texts at byte offsets, reads lists at positions and computes in words of fixed width.
Each of these operations is defined on part of its arguments only, and elsewhere it is a hazard: the
machine stops.  This module writes steps with a guard at every such operation, apart from the faults
of data sheets, and reads literals by them.  Their guards never strike.

Main definitions:

* `Hazard`, `Halt` — what stops a machine, beside the faults of a data sheet;
* `Guarded` — steps that may end in a hazard;
* `Guarded.ofStep` — a step that runs none;
* `Guarded.cut`, `Guarded.front`, `Guarded.back`, `Guarded.item`, `Guarded.wide`, `Guarded.counted`
  — the guarded operations;
* `Guarded.integer` — the whole number that a literal denotes, by guarded operations.

Main results:

* `Guarded.bind_ofStep`, `Guarded.foldlM_ofStep`, `Guarded.mapM_ofStep` — composed steps run no
  hazard if their parts do not;
* `Guarded.integer_eq` — **whole numbers are read without hazard**;
* `Guarded.value_eq` — and so are literals at every type.
-/

import DataSheet.Proofs.Integers
import DataSheet.Proofs.Offsets

set_option relaxedAutoImplicit false
set_option autoImplicit false

namespace DataSheet

/-! ### Hazards -/

/-- What a machine stops at. -/
inductive Hazard
  /-- A text is cut inside of a character or behind its end. -/
  | slice
  /-- A list is read behind its end. -/
  | index
  /-- A number leaves the range of its word. -/
  | overflow
  deriving DecidableEq

/-- Why a guarded step ends early. -/
inductive Halt
  | fault (f : Fault)
  | hazard (h : Hazard)
  deriving DecidableEq

/-- A step of a machine. -/
abbrev Guarded (α : Type) := Report Notice Halt α

namespace Guarded

variable {α β : Type}

/-- A step that runs no hazard. -/
def ofStep (r : Step α) : Guarded α := ⟨r.notices, r.outcome.mapError .fault⟩

theorem outcome_ofStep_ne (r : Step α) (h : Hazard) : (ofStep r).outcome ≠ .error (.hazard h) := by
  obtain ⟨ns, outcome⟩ := r
  cases outcome <;> nofun

/-- What goes on from a step that succeeds posts its notices behind those of the step. -/
theorem mk_ok_bind (ns : List Notice) (a : α) (k : α → Guarded β) :
    (⟨ns, .ok a⟩ : Guarded α) >>= k = ⟨ns ++ (k a).notices, (k a).outcome⟩ := rfl

theorem ofStep_bind (r : Step α) (k : α → Step β) :
    ofStep (r >>= k) = ofStep r >>= fun a => ofStep (k a) := by
  obtain ⟨ns, outcome⟩ := r
  cases outcome <;> rfl

/-- A step whose result is read off a step with hazards goes on like that step, if what follows
does. -/
theorem bind_ofStep_of_map {γ : Type} {r : Step α} {r' : Guarded γ} {φ : γ → α} {k : α → Step β}
    {k' : γ → Guarded β} (hr : φ <$> r' = ofStep r)
    (hk : ∀ c, r'.outcome = .ok c → r.outcome = .ok (φ c) → k' c = ofStep (k (φ c))) :
    r' >>= k' = ofStep (r >>= k) := by
  obtain ⟨ns, outcome⟩ := r
  obtain ⟨ns', outcome'⟩ := r'
  rw [ofStep_bind, ← hr, map_eq_pure_bind, bind_assoc]
  cases outcome' with
  | error e => rfl
  | ok c =>
      have hok : outcome = .ok (φ c) := by
        have houtcome := congrArg Report.outcome hr
        change Except.ok (φ c) = outcome.mapError Halt.fault at houtcome
        cases outcome with
        | error f => cases houtcome
        | ok a =>
            cases houtcome
            rfl
      rw [mk_ok_bind, mk_ok_bind, pure_bind, hk c rfl hok]

/-- Two steps in a row run no hazard if neither does. -/
theorem bind_ofStep {r : Step α} {r' : Guarded α} {k : α → Step β} {k' : α → Guarded β}
    (hr : r' = ofStep r) (hk : ∀ a, k' a = ofStep (k a)) : r' >>= k' = ofStep (r >>= k) := by
  rw [ofStep_bind, hr]
  exact bind_congr hk

theorem ite_ofStep {c : Prop} [Decidable c] {r t : Step α} {r' t' : Guarded α}
    (hr : r' = ofStep r) (ht : t' = ofStep t) :
    (if c then r' else t') = ofStep (if c then r else t) := by
  split
  · exact hr
  · exact ht

/-- A run without hazards is a run of steps without hazards. -/
theorem foldlM_ofStep {f : β → α → Step β} {g : β → α → Guarded β} {l : List α}
    (h : ∀ b, ∀ a ∈ l, g b a = ofStep (f b a)) (b : β) :
    l.foldlM g b = ofStep (l.foldlM f b) := by
  induction l generalizing b with
  | nil => rfl
  | cons a l ih =>
      rw [List.foldlM_cons, List.foldlM_cons]
      exact bind_ofStep (h b a List.mem_cons_self) fun b' =>
        ih (fun b a ha => h b a (List.mem_cons_of_mem _ ha)) b'

/-- Tests of the items of a list run no hazard if none of them does. -/
theorem mapM_ofStep {f : α → Except Fault β} {g : α → Guarded β} {l : List α}
    (h : ∀ a ∈ l, g a = ofStep (.ofExcept (f a))) :
    l.mapM g = ofStep (.ofExcept (l.mapM f)) := by
  have hbind : ∀ {γ δ : Type} (r : Except Fault γ) (k : γ → Except Fault δ),
      (Report.ofExcept (r >>= k) : Step δ) = .ofExcept r >>= fun a => .ofExcept (k a) := by
    intro γ δ r k
    cases r <;> rfl
  induction l with
  | nil => rfl
  | cons a l ih =>
      rw [List.mapM_cons, List.mapM_cons, hbind]
      refine bind_ofStep (h a List.mem_cons_self) fun b => ?_
      rw [hbind]
      exact bind_ofStep (ih fun a ha => h a (List.mem_cons_of_mem _ ha)) fun _ => rfl

/-! ### Guarded operations -/

/-- The parts of a text before and from byte `i` on. -/
def cut (i : Nat) (s : List Char) : Guarded (List Char × List Char) :=
  match Text.cut? i s with
  | some parts => pure parts
  | none => .fail (.hazard .slice)

/-- The part of a text before byte `i`. -/
def front (i : Nat) (s : List Char) : Guarded (List Char) := do
  let parts ← cut i s
  pure parts.1

/-- The part of a text from byte `i` on. -/
def back (i : Nat) (s : List Char) : Guarded (List Char) := do
  let parts ← cut i s
  pure parts.2

/-- The item of a list at position `i`. -/
def item (i : Nat) (l : List α) : Guarded α :=
  match l[i]? with
  | some a => pure a
  | none => .fail (.hazard .index)

instance : DecidablePred Literal.Wide := fun _ => inferInstanceAs (Decidable (_ ∧ _))

/-- A number in a word of 128 bits with a sign. -/
def wide (n : Int) : Guarded Int :=
  if Literal.Wide n then pure n else .fail (.hazard .overflow)

/-- A count in a word that has `room` values. -/
def counted (room n : Nat) : Guarded Nat :=
  if n < room then pure n else .fail (.hazard .overflow)

example : (front 3 "né".toList).outcome = .ok "né".toList := by decide
example : (front 2 "né".toList).outcome = .error (.hazard .slice) := by decide
example : (item 1 [true]).outcome = .error (.hazard .index) := by decide
example : (wide (2 ^ 127)).outcome = .error (.hazard .overflow) := by decide

theorem cut_append (a b : List Char) : cut (Text.size a) (a ++ b) = pure (a, b) := by
  unfold cut
  rw [Text.cut?_append]

theorem front_append (a b : List Char) : front (Text.size a) (a ++ b) = pure a := by
  unfold front
  rw [cut_append, pure_bind]

theorem back_append (a b : List Char) : back (Text.size a) (a ++ b) = pure b := by
  unfold back
  rw [cut_append, pure_bind]

theorem item_of_getElem? {i : Nat} {l : List α} {a : α} (h : l[i]? = some a) :
    item i l = pure a := by
  unfold item
  rw [h]

theorem wide_eq {n : Int} (h : Literal.Wide n) : wide n = pure n := if_pos h

theorem counted_eq {room n : Nat} (h : n < room) : counted room n = pure n := if_pos h

/-! ### Whole numbers -/

/-- Whether a number has a minus sign, and what follows its sign.  The sign is told by the first
byte. -/
def sign (s : List Char) : Guarded (Bool × List Char) :=
  if (Text.utf8 s).head? = some '-'.toUInt8 then do
    let digits ← back 1 s
    pure (true, digits)
  else if (Text.utf8 s).head? = some '+'.toUInt8 then do
    let digits ← back 1 s
    pure (false, digits)
  else pure (false, s)

/-- The whole number that an optional sign and a magnitude denote. -/
def signed (s : List Char) : Guarded (Option Int) := do
  let parts ← sign s
  match Literal.magnitude? parts.2 with
  | none => pure none
  | some n =>
    if parts.1 then do
      let n ← wide (-n)
      pure (some n)
    else pure (some n)

/-- What is to be added to a number: the node id, if there is one, where the literal is relative. -/
def offset? (node : Option UInt8) (relative : Bool) : Option Nat :=
  if relative then node.map UInt8.toNat else some 0

/-- The whole number that a literal denotes for a node. -/
def integer (node : Option UInt8) (s : List Char) : Guarded (Option Int) :=
  let (number, relative) := Literal.splitTerm (Literal.compact s)
  match offset? node relative with
  | none => pure none
  | some offset => do
    match ← signed number with
    | none => pure none
    | some n => do
      let n ← wide (n + offset)
      pure (some n)

theorem sign_minus (s : List Char) : sign ('-' :: s) = pure (true, s) := by
  unfold sign
  rw [if_pos ((Text.head?_utf8_eq_iff (by decide)).2 rfl)]
  change back (Text.size ['-']) (['-'] ++ s) >>= _ = _
  rw [back_append, pure_bind]

theorem sign_plus (s : List Char) : sign ('+' :: s) = pure (false, s) := by
  unfold sign
  rw [if_neg (mt (Text.head?_utf8_eq_iff (by decide)).1 (by simp)),
    if_pos ((Text.head?_utf8_eq_iff (by decide)).2 rfl)]
  change back (Text.size ['+']) (['+'] ++ s) >>= _ = _
  rw [back_append, pure_bind]

theorem sign_bare {s : List Char} (hminus : s.head? ≠ some '-') (hplus : s.head? ≠ some '+') :
    sign s = pure (false, s) := by
  unfold sign
  rw [if_neg (mt (Text.head?_utf8_eq_iff (by decide)).1 hminus),
    if_neg (mt (Text.head?_utf8_eq_iff (by decide)).1 hplus)]

theorem signed_eq (s : List Char) : signed s = pure (Literal.signed? s) := by
  unfold signed
  by_cases hminus : s.head? = some '-'
  · obtain ⟨t, rfl⟩ := List.head?_eq_some_iff.1 hminus
    rw [sign_minus, pure_bind, Literal.signed?_minus]
    cases hm : Literal.magnitude? t with
    | none => rfl
    | some n =>
        dsimp only
        rw [if_pos rfl, wide_eq (Literal.wide_of_magnitude? hm).2, pure_bind]
        rfl
  by_cases hplus : s.head? = some '+'
  · obtain ⟨t, rfl⟩ := List.head?_eq_some_iff.1 hplus
    rw [sign_plus, pure_bind, Literal.signed?_plus]
    cases Literal.magnitude? t <;> rfl
  · rw [sign_bare hminus hplus, pure_bind, Literal.signed?_bare hminus hplus]
    cases Literal.magnitude? s <;> rfl

/-- **Whole numbers are read without hazard.** -/
theorem integer_eq (node : Option UInt8) (s : List Char) :
    integer node s = pure (Literal.integer? node s) := by
  unfold integer Literal.integer?
  generalize Literal.splitTerm (Literal.compact s) = parts
  obtain ⟨number, relative⟩ := parts
  dsimp only
  -- the id of no node is zero: what is added has eight bits either way
  have hsum : ∀ id : UInt8, ∀ n, Literal.signed? number = some n →
      wide (n + (id.toNat : Nat)) = pure (n + id.toNat) := fun id n hn =>
    wide_eq (Literal.wide_of_signed? hn id).2
  cases relative with
  | false =>
      simp only [offset?, signed_eq, pure_bind]
      cases hn : Literal.signed? number with
      | none => rfl
      | some n => simpa using congrArg (· >>= fun n => pure (some n)) (hsum 0 n hn)
  | true =>
      cases node with
      | none => rfl
      | some id =>
          simp only [offset?, signed_eq, pure_bind, Option.map_some]
          cases hn : Literal.signed? number with
          | none => rfl
          | some n => simp [hsum id n hn]

/-- A whole number that does not regard a node, in a word of fewer bits. -/
def narrowed (f : Int → Option α) (s : List Char) : Guarded (Option α) := do
  let n ← integer none s
  pure (n.bind f)

/-- The number of eight bits that a literal denotes. -/
def count (s : List Char) : Guarded (Option UInt8) :=
  narrowed (fun n => if 0 ≤ n ∧ n < 256 then some (UInt8.ofNat n.toNat) else none) s

/-- The data type code that a literal denotes. -/
def typeCode (s : List Char) : Guarded (Option UInt16) :=
  narrowed (fun n => if 0 ≤ n ∧ n < 65536 then some (UInt16.ofNat n.toNat) else none) s

/-- The raw value that a key denotes. -/
def rawValue (key : String) : Guarded (Option Int64) :=
  narrowed (fun n =>
    if -0x8000000000000000 ≤ n ∧ n < 0x8000000000000000 then some (Int64.ofInt n) else none)
    key.toList

theorem narrowed_eq (f : Int → Option α) (s : List Char) :
    narrowed f s = pure ((Literal.integer? none s).bind f) := by
  unfold narrowed
  rw [integer_eq, pure_bind]

theorem count_eq (s : List Char) : count s = pure (Literal.count? s) := by
  unfold count Literal.count?
  rw [narrowed_eq]
  cases Literal.integer? none s <;> rfl

theorem typeCode_eq (s : List Char) : typeCode s = pure (Literal.typeCode? s) := by
  unfold typeCode Literal.typeCode?
  rw [narrowed_eq]
  cases Literal.integer? none s <;> rfl

theorem rawValue_eq (key : String) : rawValue key = pure (rawValue? key) := by
  unfold rawValue rawValue?
  rw [narrowed_eq]
  cases Literal.integer? none key.toList <;> rfl

/-! ### Typed values -/

/-- The truth value that a literal denotes: a word, or zero or one. -/
def boolean (node : Option UInt8) (s : List Char) : Guarded (Option Bool) :=
  let word := Text.lower (Text.trim s)
  if word = "true".toList then pure (some true)
  else if word = "false".toList then pure (some false)
  else do
    match ← integer node word with
    | some 0 => pure (some false)
    | some 1 => pure (some true)
    | _ => pure none

/-- The value that a literal denotes at a type. -/
def parse (type : DataType) (node : Option UInt8) (literal : String) : Guarded (Option Value) :=
  if type = .domain then pure none
  else if type.isString then pure (some (.text literal))
  else if type = .boolean then do
    let b ← boolean node literal.toList
    pure (b.map Value.boolean)
  else if type.isFloat then pure ((Literal.float? type literal.toList).map Value.float)
  else do
    let n ← integer node literal.toList
    pure (n.bind (Literal.ofInt? type))

/-- The value of an entry, which a blank literal leaves out. -/
def value (address : Address) (field : Field) (type : DataType) (node : Option UInt8)
    (literal : String) : Guarded (Option Value) := do
  if type = .domain then pure none
  else if !type.isString && Literal.isBlank literal then
    .note (.emptyLiteral address field)
    pure none
  else
    match ← parse type node literal with
    | some v => pure (some v)
    | none => .fail (.fault (.badLiteral address field literal))

theorem boolean_eq (node : Option UInt8) (s : List Char) :
    boolean node s = pure (Literal.boolean? node s) := by
  unfold boolean Literal.boolean?
  dsimp only
  rw [integer_eq, pure_bind]
  generalize Literal.integer? node (Text.lower (Text.trim s)) = n
  split
  · rfl
  split
  · rfl
  split <;> grind

theorem parse_eq (type : DataType) (node : Option UInt8) (literal : String) :
    parse type node literal = pure (Literal.parse? type node literal) := by
  unfold parse Literal.parse?
  rw [boolean_eq, integer_eq, pure_bind, pure_bind]
  repeat' split
  all_goals rfl

/-- **Literals are read without hazard.** -/
theorem value_eq (address : Address) (field : Field) (type : DataType) (node : Option UInt8)
    (literal : String) :
    value address field type node literal =
      ofStep (Literal.value address field type node literal) := by
  unfold value Literal.value
  rw [parse_eq, pure_bind]
  split
  · rfl
  split
  · rfl
  cases Literal.parse? type node literal <;> rfl

end Guarded

end DataSheet
