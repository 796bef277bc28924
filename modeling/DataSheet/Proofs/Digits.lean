/-
**Written numbers are read back.**

A number written in digits of a base has that number as its value, whatever the width to which it is
padded and whatever the case of its letters.

Main results:

* `Text.ranges_of_digit?`, `Text.eq_of_digit?` — which characters are digits, and of which value;
* `Text.number?_upperHex`, `Text.number?_lowerHex` — **a number written is read back**;
* `Text.isDigit_of_number?` — what has a value consists of digits.
-/

import DataSheet.Text.Blank
import DataSheet.Text.Digits
import Mathlib.Tactic.IntervalCases

set_option relaxedAutoImplicit false
set_option autoImplicit false

namespace DataSheet.Text

variable {base : Nat}

/-! ### Single digits -/

/-- A digit of a base has the same value in base sixteen. -/
theorem digit?_eq_some_iff_sixteen (hb : base ≤ 16) {c : Char} {d : Nat} :
    digit? base c = some d ↔ digit? 16 c = some d ∧ d < base := by
  unfold digit?
  grind

theorem digit?_digitChar (hb : base ≤ 16) {d : Nat} (hd : d < base) :
    digit? base (Nat.digitChar d) = some d := by
  refine (digit?_eq_some_iff_sixteen hb).2 ⟨?_, hd⟩
  have hlt : d < 16 := by omega
  interval_cases d <;> decide

theorem digit?_toUpper_digitChar (hb : base ≤ 16) {d : Nat} (hd : d < base) :
    digit? base (Nat.digitChar d).toUpper = some d := by
  refine (digit?_eq_some_iff_sixteen hb).2 ⟨?_, hd⟩
  have hlt : d < 16 := by omega
  interval_cases d <;> decide

theorem digit?_zero (hb : 0 < base) : digit? base '0' = some 0 := by
  change (if 0 < base then some 0 else none) = some 0
  rw [if_pos hb]

/-- Digits lie in three ranges. -/
theorem ranges_of_digit? {c : Char} {d : Nat} (h : digit? base c = some d) :
    (48 ≤ c.toNat ∧ c.toNat ≤ 57 ∧ d = c.toNat - 48) ∨
      (97 ≤ c.toNat ∧ c.toNat ≤ 102 ∧ d = c.toNat - 87) ∨
      65 ≤ c.toNat ∧ c.toNat ≤ 70 ∧ d = c.toNat - 55 := by
  have hle : ∀ a b : Char, a ≤ b ↔ a.toNat ≤ b.toNat := fun _ _ => Iff.rfl
  simp only [digit?, hle] at h
  norm_num at h
  grind

/-- Each value has one digit, of either letter case. -/
theorem eq_of_digit? {c : Char} {d : Nat} (h : digit? base c = some d) :
    c = Nat.digitChar d ∨ c = (Nat.digitChar d).toUpper := by
  have hranges := ranges_of_digit? h
  rw [← Char.ofNat_toNat c]
  generalize c.toNat = k at hranges
  rcases hranges with ⟨hl, hu, rfl⟩ | ⟨hl, hu, rfl⟩ | ⟨hl, hu, rfl⟩ <;> interval_cases k <;> decide

theorem not_isBlank_of_isDigit {c : Char} (h : isDigit base c) : isBlank c = false := by
  obtain ⟨d, hd⟩ := Option.isSome_iff_exists.1 h
  have hranges := ranges_of_digit? hd
  cases hb : isBlank c with
  | false => rfl
  | true =>
      simp only [isBlank, Bool.or_eq_true, Bool.and_eq_true, decide_eq_true_eq, beq_iff_eq] at hb
      omega

/-! ### Runs of digits -/

theorem continueNumber?_append (n : Nat) (s t : List Char) :
    continueNumber? base n (s ++ t) =
      (continueNumber? base n s).bind fun m => continueNumber? base m t := by
  induction s generalizing n with
  | nil => rfl
  | cons c s ih =>
      rw [List.cons_append, continueNumber?, continueNumber?]
      cases digit? base c with
      | none => rfl
      | some d => exact ih (base * n + d)

/-- Digits written in some other way, each with its value, are read back. -/
theorem continueNumber?_map_toDigits (hb : 1 < base) {f : Char → Char}
    (hf : ∀ d < base, digit? base (f (Nat.digitChar d)) = some d) (n : Nat) :
    continueNumber? base 0 ((Nat.toDigits base n).map f) = some n := by
  induction n using Nat.strongRecOn with
  | ind n ih =>
      rcases Nat.lt_or_ge n base with hn | hn
      · rw [Nat.toDigits_of_lt_base hn]
        simp only [List.map_cons, List.map_nil, continueNumber?, hf n hn, Nat.mul_zero,
          Nat.zero_add]
      · have hdiv : n / base < n := Nat.div_lt_self (by omega) hb
        have hmod : n % base < base := Nat.mod_lt n (by omega)
        rw [Nat.toDigits_of_base_le hb hn, List.map_append, continueNumber?_append, ih _ hdiv]
        simp only [List.map_cons, List.map_nil, Option.bind_some, continueNumber?, hf _ hmod,
          Nat.div_add_mod]

theorem continueNumber?_toDigits (hb : 1 < base) (hb' : base ≤ 16) (n : Nat) :
    continueNumber? base 0 (Nat.toDigits base n) = some n := by
  have hdigits := continueNumber?_map_toDigits (f := id) hb (fun _ => digit?_digitChar hb') n
  rwa [List.map_id] at hdigits

/-- Zeros in front do not change a value. -/
theorem continueNumber?_replicate (hb : 0 < base) (k : Nat) (s : List Char) :
    continueNumber? base 0 (List.replicate k '0' ++ s) = continueNumber? base 0 s := by
  induction k with
  | zero => rfl
  | succ k ih =>
      rw [List.replicate_succ, List.cons_append, continueNumber?, digit?_zero hb]
      exact ih

theorem number?_leftpad (hb : 0 < base) {s : List Char} (hs : s ≠ []) (width : Nat) :
    number? base (s.leftpad width '0') = continueNumber? base 0 s := by
  have hne : s.leftpad width '0' ≠ [] := by
    rw [List.leftpad]
    exact List.append_ne_nil_of_right_ne_nil _ hs
  rw [number?, if_neg hne, List.leftpad, continueNumber?_replicate hb]

/-! ### Numbers written -/

/-- A number in upper-case hexadecimal is read back. -/
theorem number?_upperHex (width n : Nat) : number? 16 (upperHex width n).toList = some n := by
  have hne : (Nat.toDigits 16 n).map Char.toUpper ≠ [] := by simp
  rw [upperHex, String.toList_ofList, number?_leftpad (by omega) hne]
  exact continueNumber?_map_toDigits (by omega) (fun _ => digit?_toUpper_digitChar le_rfl) n

/-- A number in lower-case hexadecimal is read back. -/
theorem number?_lowerHex (width n : Nat) : number? 16 (lowerHex width n).toList = some n := by
  rw [lowerHex, String.toList_ofList, number?_leftpad (by omega) Nat.toDigits_ne_nil]
  exact continueNumber?_toDigits (by omega) (by omega) n

/-! ### The characters of numbers -/

theorem isDigit_of_continueNumber? {n m : Nat} {s : List Char}
    (h : continueNumber? base n s = some m) : ∀ c ∈ s, isDigit base c := by
  induction s generalizing n with
  | nil =>
      intro c hc
      cases hc
  | cons d s ih =>
      rw [continueNumber?] at h
      split at h
      · cases h
      next k hk =>
        intro c hc
        rcases List.mem_cons.1 hc with rfl | hc
        · rw [isDigit, hk]
          rfl
        · exact ih h c hc

/-- What has a value consists of digits. -/
theorem isDigit_of_number? {n : Nat} {s : List Char} (h : number? base s = some n) :
    ∀ c ∈ s, isDigit base c := by
  rw [number?] at h
  split at h
  · cases h
  · exact isDigit_of_continueNumber? h

end DataSheet.Text
