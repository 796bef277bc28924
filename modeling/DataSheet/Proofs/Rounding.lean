/-
**Rounding to the nearest number.**

Between the middles to its two neighbours lie the quotients that round to a number; the middles
themselves do so where its significand is even.  Rounding gives numbers of the format, each of them
is the nearest one to all quotients around it, and the shortest decimal of a number lies around it,
so that it is read as that number.

Main definitions:

* `Binary64.Exact` — the units that a finite number of the format can count;
* `Binary64.Around` — a quotient lies between the middles around a number.

Main results:

* `Binary64.exact_of_nearest`, `Binary64.exact_of_ofDecimal` — rounding gives numbers of the format;
* `Binary64.nearest_of_around` — **a quotient around a number rounds to it**;
* `Binary64.Shortest.around_ofUnits` — **the shortest decimal of a number lies around it**;
* `Binary64.ofDecimal_of_around` — a decimal around a number is read as that number.
-/

import DataSheet.Number.Shortest
import Mathlib.Data.Nat.Log
import Mathlib.Tactic.Linarith
import Mathlib.Tactic.Ring

set_option relaxedAutoImplicit false
set_option autoImplicit false

namespace DataSheet.Binary64

/-! ### Rounding quotients to whole numbers -/

/-- A quotient between the middles around a whole number rounds to it. -/
theorem roundDiv_eq {n d m : Nat} (hd : 0 < d) (hlow : 2 * m * d ≤ 2 * n + d)
    (hhigh : 2 * n ≤ (2 * m + 1) * d)
    (htie : m % 2 = 1 → 2 * m * d < 2 * n + d ∧ 2 * n < (2 * m + 1) * d) :
    roundDiv n d = m := by
  have hn : d * (n / d) + n % d = n := Nat.div_add_mod n d
  have hr : n % d < d := Nat.mod_lt n hd
  unfold roundDiv
  dsimp only
  generalize n / d = q at hn
  generalize n % d = r at hn hr
  subst hn
  have hqm : q ≤ m := by
    by_contra hlt
    have : (m + 1) * d ≤ q * d := Nat.mul_le_mul_right d (by omega)
    nlinarith
  have hmq : m ≤ q + 1 := by
    by_contra hlt
    have : (q + 2) * d ≤ m * d := Nat.mul_le_mul_right d (by omega)
    nlinarith
  obtain rfl | rfl : m = q ∨ m = q + 1 := by omega
  · have hle : 2 * r ≤ d := by nlinarith
    by_cases hlt : 2 * r < d
    · rw [if_pos hlt]
    · have heven : m % 2 = 0 := by
        by_contra hodd
        have := (htie (by omega)).2
        nlinarith
      rw [if_neg hlt, if_neg (by omega), heven, Nat.add_zero]
  · have hge : d ≤ 2 * r := by nlinarith
    rw [if_neg (by omega)]
    by_cases hlt : d < 2 * r
    · rw [if_pos hlt]
    · have hodd : q % 2 = 1 := by
        by_contra heven
        have := (htie (by omega)).1
        nlinarith
      rw [if_neg hlt, hodd]

theorem roundDiv_bounds (n d : Nat) : n / d ≤ roundDiv n d ∧ roundDiv n d ≤ n / d + 1 := by
  unfold roundDiv
  dsimp only
  split
  · omega
  · split <;> omega

/-! ### The distance of numbers -/

theorem spacing_eq {n q : Nat} (hlow : q = 0 ∨ 2 ^ (q + 52) ≤ n) (hhigh : n < 2 ^ (q + 53)) :
    spacing n = q := by
  unfold spacing
  have hlt : n.log2 < q + 53 := by
    rcases Nat.eq_zero_or_pos n with rfl | hpos
    · simp
    · exact (Nat.log2_lt (by omega)).2 hhigh
  rcases hlow with rfl | hlow
  · omega
  · have hpos : 0 < n := Nat.lt_of_lt_of_le (Nat.two_pow_pos _) hlow
    have := (Nat.le_log2 (by omega)).2 hlow
    omega

theorem lt_two_pow_spacing (n : Nat) : n < 2 ^ (spacing n + 53) := by
  have h : n < 2 ^ (n.log2 + 1) := Nat.lt_log2_self
  refine h.trans_le (Nat.pow_le_pow_right (by omega) ?_)
  unfold spacing
  omega

theorem two_pow_spacing_le {n : Nat} (h : 0 < spacing n) : 2 ^ (spacing n + 52) ≤ n := by
  unfold spacing at h ⊢
  have hn : n ≠ 0 := by
    rintro rfl
    simp at h
  rw [Nat.sub_add_cancel (by omega)]
  exact Nat.log2_self_le hn

/-- The units that a finite number of the format can count. -/
structure Exact (units : Nat) : Prop where
  bounded : units < unitsBound
  grid : 2 ^ spacing units ∣ units

/-- A multiple of the distance around a number, not greater than the next power of two. -/
theorem grid_of_mul {k r : Nat} (hlow : k = 0 ∨ 2 ^ 52 ≤ r) (hhigh : r ≤ 2 ^ 53) :
    2 ^ spacing (r * 2 ^ k) ∣ r * 2 ^ k := by
  have hpow : 0 < 2 ^ k := Nat.two_pow_pos k
  rcases hhigh.lt_or_eq with hlt | rfl
  · have hspacing : spacing (r * 2 ^ k) = k := by
      refine spacing_eq (hlow.imp_right fun h => ?_) ?_
      · rw [Nat.add_comm, pow_add]
        exact Nat.mul_le_mul_right _ h
      · rw [Nat.add_comm, pow_add]
        exact Nat.mul_lt_mul_of_pos_right hlt hpow
    rw [hspacing]
    exact Dvd.intro_left r rfl
  · have hspacing : spacing (2 ^ 53 * 2 ^ k) = k + 1 := by
      rw [← pow_add]
      refine spacing_eq (.inr (Nat.pow_le_pow_right (by omega) (by omega))) ?_
      exact Nat.pow_lt_pow_right (by omega) (by omega)
    rw [hspacing, ← pow_add]
    exact Nat.pow_dvd_pow 2 (by omega)

/-- Rounding gives numbers of the format. -/
theorem exact_of_nearest {negative sign : Bool} {num den units : Nat}
    (h : nearest negative num den = .finite sign units) : Exact units := by
  unfold nearest at h
  dsimp only at h
  split at h
  next hbound =>
    cases h
    refine ⟨hbound, ?_⟩
    generalize num * unitsPerOne = n
    simp only [Nat.pow_eq]
    have hdiv : n / (den * 2 ^ spacing (n / den)) = n / den / 2 ^ spacing (n / den) :=
      (Nat.div_div_eq_div_mul _ _ _).symm
    have hround := roundDiv_bounds n (den * 2 ^ spacing (n / den))
    rw [hdiv] at hround
    generalize roundDiv n (den * 2 ^ spacing (n / den)) = r at hround
    generalize n / den = s at hround
    have hhigh : s / 2 ^ spacing s < 2 ^ 53 := by
      rw [Nat.div_lt_iff_lt_mul (Nat.two_pow_pos _), ← pow_add, Nat.add_comm]
      exact lt_two_pow_spacing s
    refine grid_of_mul ?_ (by omega)
    rcases Nat.eq_zero_or_pos (spacing s) with hzero | hpos
    · exact .inl hzero
    · right
      refine le_trans ?_ hround.1
      rw [Nat.le_div_iff_mul_le (Nat.two_pow_pos _), ← pow_add, Nat.add_comm]
      exact two_pow_spacing_le hpos
  next => cases h

/-- The units in one and their bound are powers of two.  The exponents are kept apart, so that the
powers are not computed. -/
theorem units_eq : ∃ k b, unitsPerOne = 2 ^ k ∧ unitsBound = 2 ^ (b + k) ∧ k = 1074 ∧ b = 1024 := by
  have hsum : 2098 = 1024 + 1074 := rfl
  unfold unitsPerOne unitsBound
  rw [hsum]
  generalize 1074 = k
  generalize 1024 = b
  exact ⟨k, b, Nat.pow_eq, Nat.pow_eq, rfl, rfl⟩

theorem exact_zero : Exact 0 where
  bounded := by
    obtain ⟨k, b, -, hbound, -⟩ := units_eq
    rw [hbound]
    exact Nat.two_pow_pos _
  grid := dvd_zero _

theorem exact_of_ofDecimal {negative sign : Bool} {digits units : Nat} {exponent : Int}
    (h : ofDecimal negative digits exponent = .finite sign units) : Exact units := by
  unfold ofDecimal at h
  split at h
  · split at h
    · cases h
      exact exact_zero
    · split at h
      · cases h
      · exact exact_of_nearest h
  · split at h
    · cases h
      exact exact_zero
    · exact exact_of_nearest h

/-! ### Quotients that round to a number -/

open Shortest (quartersBelow quartersAbove)

/-- The quotient lies between the middles around a number, in quarters of a unit; where the
significand is odd, the middles do not count. -/
structure Around (units num den : Nat) : Prop where
  low : (4 * units - quartersBelow units) * den ≤ 4 * num * unitsPerOne
  high : 4 * num * unitsPerOne ≤ (4 * units + quartersAbove units) * den
  odd : units / 2 ^ spacing units % 2 = 1 →
    (4 * units - quartersBelow units) * den < 4 * num * unitsPerOne ∧
      4 * num * unitsPerOne < (4 * units + quartersAbove units) * den

theorem quartersBelow_le (units : Nat) : quartersBelow units ≤ 2 * 2 ^ spacing units := by
  unfold quartersBelow
  dsimp only
  simp only [Nat.pow_eq]
  split <;> omega

/-- Rounding in two steps: how far numbers lie apart around the quotient, and which is nearest. -/
theorem nearest_eq {negative : Bool} {num den units k : Nat} (hbound : units < unitsBound)
    (hspacing : spacing (num * unitsPerOne / den) = k)
    (hround : roundDiv (num * unitsPerOne) (den * 2 ^ k) * 2 ^ k = units) :
    nearest negative num den = .finite negative units := by
  unfold nearest
  dsimp only
  simp only [Nat.pow_eq, hspacing, hround]
  rw [if_pos hbound]

/-- Bounds on a whole quotient give the distance of numbers around it. -/
theorem spacing_div {n den k : Nat} (hden : 0 < den) (hlow : k = 0 ∨ 2 ^ 52 * (den * 2 ^ k) ≤ n)
    (hhigh : n < 2 ^ 53 * (den * 2 ^ k)) : spacing (n / den) = k := by
  refine spacing_eq (hlow.imp_right fun h => ?_) ?_
  · rw [Nat.le_div_iff_mul_le hden, Nat.add_comm, pow_add]
    linarith
  · rw [Nat.div_lt_iff_lt_mul hden, Nat.add_comm, pow_add]
    linarith

/-- A quotient that rounds to `m` steps, where these are the steps of the numbers around it. -/
theorem nearest_on_grid {negative : Bool} {num den m k : Nat} (hbound : m * 2 ^ k < unitsBound)
    (hden : 0 < den)
    (hbelow : k = 0 ∨ 2 ^ 52 * (den * 2 ^ k) ≤ num * unitsPerOne)
    (habove : num * unitsPerOne < 2 ^ 53 * (den * 2 ^ k))
    (hlow : 2 * m * (den * 2 ^ k) ≤ 2 * (num * unitsPerOne) + den * 2 ^ k)
    (hhigh : 2 * (num * unitsPerOne) ≤ (2 * m + 1) * (den * 2 ^ k))
    (hodd : m % 2 = 1 → 2 * m * (den * 2 ^ k) < 2 * (num * unitsPerOne) + den * 2 ^ k ∧
      2 * (num * unitsPerOne) < (2 * m + 1) * (den * 2 ^ k)) :
    nearest negative num den = .finite negative (m * 2 ^ k) := by
  have hstep : 0 < den * 2 ^ k := Nat.mul_pos hden (Nat.two_pow_pos k)
  refine nearest_eq hbound (spacing_div hden hbelow habove) ?_
  rw [roundDiv_eq hstep hlow hhigh hodd]

theorem quartersBelow_of_eq {units : Nat} (hk : 0 < spacing units)
    (h : units = 2 ^ (spacing units + 52)) : quartersBelow units = 2 ^ spacing units := by
  unfold quartersBelow
  dsimp only
  simp only [Nat.pow_eq]
  exact if_pos ⟨hk, h⟩

/-- The bound from below, without a difference. -/
theorem Around.low_add {units num den : Nat} (hu : Exact units) (hpos : 0 < units)
    (h : Around units num den) :
    4 * units * den ≤ 4 * (num * unitsPerOne) + quartersBelow units * den ∧
      (units / 2 ^ spacing units % 2 = 1 →
        4 * units * den < 4 * (num * unitsPerOne) + quartersBelow units * den) := by
  have hle : quartersBelow units * den ≤ 4 * units * den := by
    have hgrid := Nat.le_of_dvd hpos hu.grid
    have hbelow := quartersBelow_le units
    exact Nat.mul_le_mul_right den (by omega)
  have hlow := h.low
  have hodd := h.odd
  rw [Nat.sub_mul, Nat.mul_assoc 4 num] at hlow hodd
  constructor
  · omega
  · intro hone
    have := (hodd hone).1
    omega

/-- Below a power of two the numbers lie twice as dense as above it.  A quotient there rounds to
that power if it lies above the middle below it. -/
theorem nearest_below_power {negative : Bool} {num den p : Nat}
    (hbound : 2 ^ 53 * 2 ^ p < unitsBound) (hden : 0 < den)
    (hlow : 2 * 2 ^ 53 * (den * 2 ^ p) ≤ 2 * (num * unitsPerOne) + den * 2 ^ p)
    (hhigh : num * unitsPerOne < 2 ^ 53 * (den * 2 ^ p)) :
    nearest negative num den = .finite negative (2 ^ 53 * 2 ^ p) := by
  refine nearest_on_grid hbound hden (.inr ?_) hhigh hlow ?_ (by omega)
  · omega
  · omega

/-- The significand of a number of the format has at most 53 bits, and exactly so many where the
numbers are more than a unit apart. -/
theorem Exact.exists_significand {units : Nat} (hu : Exact units) :
    ∃ m, units = m * 2 ^ spacing units ∧ units / 2 ^ spacing units = m ∧ m < 2 ^ 53 ∧
      (spacing units = 0 ∨ 2 ^ 52 ≤ m) := by
  obtain ⟨m, hm⟩ := hu.grid
  have hstep : 0 < 2 ^ spacing units := Nat.two_pow_pos _
  have hquot : units / 2 ^ spacing units = m := by
    rw [Nat.div_eq_of_eq_mul_right hstep hm]
  rw [Nat.mul_comm] at hm
  refine ⟨m, hm, hquot, ?_, ?_⟩
  · have hlt := lt_two_pow_spacing units
    rw [← hquot, Nat.div_lt_iff_lt_mul hstep, ← pow_add, Nat.add_comm]
    exact hlt
  · rcases Nat.eq_zero_or_pos (spacing units) with hzero | hpos
    · exact .inl hzero
    · right
      rw [← hquot, Nat.le_div_iff_mul_le hstep, ← pow_add, Nat.add_comm]
      exact two_pow_spacing_le hpos

/-- **A quotient around a number rounds to it.** -/
theorem nearest_of_around {negative : Bool} {units num den : Nat} (hu : Exact units)
    (hpos : 0 < units) (hden : 0 < den) (h : Around units num den) :
    nearest negative num den = .finite negative units := by
  obtain ⟨hlow, hlowodd⟩ := h.low_add hu hpos
  have hhigh := h.high
  have hhighodd := fun hone => (h.odd hone).2
  have habove : quartersAbove units = 2 * 2 ^ spacing units := rfl
  rw [habove, Nat.mul_assoc 4 num] at hhigh hhighodd
  obtain ⟨m, hm, hquot, hm53, hnormal⟩ := hu.exists_significand
  rw [hquot] at hlowodd hhighodd
  have hbound := hu.bounded
  have hbelow := Nat.mul_le_mul_right den (quartersBelow_le units)
  have hpower : 0 < spacing units → units = 2 ^ (spacing units + 52) →
      quartersBelow units = 2 ^ spacing units := quartersBelow_of_eq
  generalize spacing units = k at *
  generalize quartersBelow units = below at *
  subst hm
  by_cases hcase : k = 0 ∨ 2 ^ 52 * (den * 2 ^ k) ≤ num * unitsPerOne
  · -- around the quotient numbers lie as far apart as around the number
    refine nearest_on_grid hbound hden hcase ?_ ?_ ?_ fun hone => ?_
    · have : (4 * m + 2) * (den * 2 ^ k) < 4 * 2 ^ 53 * (den * 2 ^ k) :=
        Nat.mul_lt_mul_of_pos_right (by omega) (Nat.mul_pos hden (Nat.two_pow_pos k))
      nlinarith
    · nlinarith
    · nlinarith
    · have hlow := hlowodd hone
      have hhigh := hhighodd hone
      constructor <;> nlinarith
  · -- the quotient lies below a power of two, and the number is that power
    rw [not_or, not_le] at hcase
    obtain ⟨hkpos, hless⟩ := hcase
    obtain ⟨p, rfl⟩ : ∃ p, k = p + 1 := ⟨k - 1, by omega⟩
    have hm52 : m = 2 ^ 52 := by
      have hlt : 4 * m * (den * 2 ^ (p + 1)) < (4 * 2 ^ 52 + 2) * (den * 2 ^ (p + 1)) := by
        nlinarith
      have := Nat.lt_of_mul_lt_mul_right hlt
      omega
    subst hm52
    have hdense : below = 2 ^ (p + 1) := hpower (by omega) (by rw [← pow_add, Nat.add_comm])
    have hunits : 2 ^ 52 * 2 ^ (p + 1) = 2 ^ 53 * 2 ^ p := by ring
    rw [hunits] at hbound hlow ⊢
    rw [hdense] at hlow
    refine nearest_below_power hbound hden ?_ ?_
    · rw [pow_succ] at hlow
      nlinarith
    · have hdouble : den * 2 ^ (p + 1) = 2 * (den * 2 ^ p) := by ring
      rw [hdouble] at hless
      omega

/-! ### The shortest decimal -/

namespace Shortest

/-- A decimal rounds to a number exactly if its quotient lies around it. -/
theorem holds_iff {units : Nat} {d : Decimal} :
    holds units d ↔ Around units d.ratio.1 d.ratio.2 := by
  unfold holds
  dsimp only
  rw [Nat.pow_eq]
  constructor
  · intro h
    split at h
    next heven =>
      rw [Bool.and_eq_true, decide_eq_true_eq, decide_eq_true_eq] at h
      exact ⟨h.1, h.2, fun hodd => by omega⟩
    next =>
      rw [Bool.and_eq_true, decide_eq_true_eq, decide_eq_true_eq] at h
      exact ⟨h.1.le, h.2.le, fun _ => h⟩
  · rintro ⟨hlow, hhigh, hodd⟩
    split
    next =>
      rw [Bool.and_eq_true, decide_eq_true_eq, decide_eq_true_eq]
      exact ⟨hlow, hhigh⟩
    next hne =>
      rw [Bool.and_eq_true, decide_eq_true_eq, decide_eq_true_eq]
      exact hodd (by omega)

/-- What is found on a grid rounds to the number. -/
theorem holds_of_onGrid? {tie : Tie} {units : Nat} {exponent : Int} {d : Decimal}
    (h : onGrid? tie units exponent = some d) : holds units d := by
  unfold onGrid? at h
  dsimp only at h
  split at h
  · cases h
  next hbelow _ =>
    cases h
    exact hbelow
  next _ habove =>
    cases h
    exact habove
  next hbelow habove =>
    split at h
    · cases h
      exact hbelow
    · cases h
      exact habove
    · split at h
      · cases h
        exact habove
      · split at h
        · cases h
          exact hbelow
        · cases h
          exact habove

/-- A quotient that is the number itself. -/
theorem around_of_eq {units num den : Nat} (hpos : 0 < units) (hden : 0 < den)
    (h : num * unitsPerOne = units * den) : Around units num den := by
  have hstep : 0 < 2 ^ spacing units := Nat.two_pow_pos _
  have hbelow : 0 < quartersBelow units := by
    unfold quartersBelow
    dsimp only
    simp only [Nat.pow_eq]
    split <;> omega
  have habove : quartersAbove units = 2 * 2 ^ spacing units := rfl
  have hlow : (4 * units - quartersBelow units) * den < 4 * num * unitsPerOne := by
    rw [Nat.mul_assoc, h, ← Nat.mul_assoc]
    exact Nat.mul_lt_mul_of_pos_right (by omega) hden
  have hhigh : 4 * num * unitsPerOne < (4 * units + quartersAbove units) * den := by
    rw [Nat.mul_assoc, h, ← Nat.mul_assoc]
    exact Nat.mul_lt_mul_of_pos_right (by omega) hden
  exact ⟨hlow.le, hhigh.le, fun _ => ⟨hlow, hhigh⟩⟩

/-- The decimal behind the last grid is the number itself. -/
theorem holds_last {units : Nat} (hpos : 0 < units) :
    holds units ⟨units * Nat.pow 5 1074, -1074⟩ := by
  obtain ⟨k, b, hunits, -, hk, -⟩ := units_eq
  have hexponent : (-1074 : Int) = .negSucc 1073 := rfl
  rw [holds_iff, hexponent]
  simp only [Decimal.ratio, Nat.reduceAdd]
  rw [← hk]
  refine around_of_eq hpos (Nat.pow_pos (by omega)) ?_
  rw [hunits]
  simp only [Nat.pow_eq]
  rw [Nat.mul_assoc, ← mul_pow]
  rfl

theorem holds_search {tie : Tie} {units : Nat} (hpos : 0 < units) (grids : Nat) (exponent : Int) :
    holds units (search tie units grids exponent) := by
  induction grids generalizing exponent with
  | zero => exact holds_last hpos
  | succ grids ih =>
      rw [search]
      split
      next d hd => exact holds_of_onGrid? hd
      next => exact ih (exponent - 1)

/-- **The shortest decimal of a number rounds to it.** -/
theorem around_ofUnits (tie : Tie) {units : Nat} (hpos : 0 < units) :
    Around units (ofUnits tie units).ratio.1 (ofUnits tie units).ratio.2 :=
  holds_iff.1 (holds_search hpos 64 (topExponent units))

end Shortest

/-! ### Decimals that round to a number -/

open Shortest (Decimal)

/-- Around a number of the format there is nothing below its half and above its double. -/
theorem Around.bounds {units num den : Nat} (hu : Exact units) (hpos : 0 < units)
    (h : Around units num den) :
    units * den ≤ 2 * (num * unitsPerOne) ∧ num * unitsPerOne ≤ 2 * (units * den) := by
  have hgrid := Nat.le_of_dvd hpos hu.grid
  have hbelow := Nat.mul_le_mul_right den (quartersBelow_le units)
  have hgrid := Nat.mul_le_mul_right den hgrid
  have hlow := (h.low_add hu hpos).1
  have hhigh := h.high
  have habove : quartersAbove units = 2 * 2 ^ spacing units := rfl
  rw [habove, Nat.mul_assoc 4 num] at hhigh
  constructor <;> nlinarith

/-- Eights are below tens. -/
theorem two_pow_le_ten_pow (k : Nat) : 2 ^ (3 * k) ≤ Nat.pow 10 k := by
  rw [Nat.pow_eq, pow_mul]
  exact Nat.pow_le_pow_left (by omega) k

/-- A decimal around a number does not have too great an exponent. -/
theorem exponent_lt {units digits e : Nat} (hdigits : 0 < digits) (hbound : units < unitsBound)
    (h : digits * Nat.pow 10 e * unitsPerOne ≤ 2 * units) : e < overflowExponent := by
  obtain ⟨k, b, hone, hmax, -, hb⟩ := units_eq
  rw [hmax] at hbound
  rw [hone] at h
  have hlt : 2 ^ (3 * e + k) < 2 ^ (b + k + 1) :=
    calc 2 ^ (3 * e + k) ≤ Nat.pow 10 e * 2 ^ k := by
          rw [pow_add]
          exact Nat.mul_le_mul_right _ (two_pow_le_ten_pow e)
      _ ≤ digits * Nat.pow 10 e * 2 ^ k :=
          Nat.mul_le_mul_right _ (Nat.le_mul_of_pos_left _ hdigits)
      _ ≤ 2 * units := h
      _ < 2 * 2 ^ (b + k) := by omega
      _ = 2 ^ (b + k + 1) := (pow_succ' 2 _).symm
  have := (Nat.pow_lt_pow_iff_right (by omega)).1 hlt
  unfold overflowExponent
  omega

/-- A decimal around a number does not have too many places. -/
theorem places_lt {digits e : Nat} (h : Nat.pow 10 (e + 1) ≤ 2 * (digits * unitsPerOne)) :
    e < digits.log2 / 3 + overflowExponent := by
  obtain ⟨k, b, hone, -, hk, -⟩ := units_eq
  rw [hone] at h
  have hdigits : digits < 2 ^ (digits.log2 + 1) := Nat.lt_log2_self
  have hlt : 2 ^ (3 * (e + 1)) < 2 ^ (digits.log2 + 1 + k + 1) :=
    calc 2 ^ (3 * (e + 1)) ≤ 2 * (digits * 2 ^ k) := (two_pow_le_ten_pow (e + 1)).trans h
      _ < 2 * (2 ^ (digits.log2 + 1) * 2 ^ k) := by
          have := Nat.mul_lt_mul_of_pos_right hdigits (Nat.two_pow_pos k)
          omega
      _ = 2 ^ (digits.log2 + 1 + k + 1) := by rw [← pow_add, ← pow_succ']
  have := (Nat.pow_lt_pow_iff_right (by omega)).1 hlt
  unfold overflowExponent
  omega

/-- **A decimal around a number is read as that number.**  The powers of ten that are not computed
do not matter to it. -/
theorem ofDecimal_of_around {negative : Bool} {units digits : Nat} {exponent : Int}
    (hu : Exact units) (hpos : 0 < units)
    (h : Around units (Decimal.ratio ⟨digits, exponent⟩).1 (Decimal.ratio ⟨digits, exponent⟩).2) :
    ofDecimal negative digits exponent = .finite negative units := by
  obtain ⟨hlow, hhigh⟩ := h.bounds hu hpos
  cases exponent with
  | ofNat e =>
      simp only [Decimal.ratio, Nat.mul_one] at h hlow hhigh
      have hdigits : 0 < digits := by
        rcases Nat.eq_zero_or_pos digits with rfl | hdigits
        · simp at hlow
          omega
        · exact hdigits
      have he := exponent_lt hdigits hu.bounded hhigh
      simp only [ofDecimal]
      rw [if_neg (by omega), if_neg (by omega)]
      exact nearest_of_around hu hpos Nat.one_pos h
  | negSucc e =>
      simp only [Decimal.ratio] at h hlow
      have he : e < digits.log2 / 3 + overflowExponent :=
        places_lt (le_trans (Nat.le_mul_of_pos_left _ hpos) hlow)
      simp only [ofDecimal]
      rw [if_neg (by omega)]
      exact nearest_of_around hu hpos (Nat.pow_pos (by omega)) h

end DataSheet.Binary64
