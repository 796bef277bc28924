/-
**Numbers written are read back.**

A finite number is written with the digits of its shortest decimal, positionally or with an
exponent.  Reading gives this decimal again, up to zeros behind the point, and so the number.

Main definitions:

* `Binary64.Layout.isMark` — the characters of numbers that are no digits;
* `Binary64.Layout.Numeric` — a text of digits and such characters.

Main results:

* `Binary64.decimal?_positional_of_neg`, `Binary64.decimal?_positional_ofNat`,
  `Binary64.decimal?_exponential` — the decimal in either layout;
* `Binary64.ofText?_write` — **a finite number is read back**, whatever the layout;
* `Binary64.exact_of_ofText?` — a finite number that is read is one of the format;
* `Binary64.Layout.numeric_write` — the characters of a finite number;
* `Binary64.Layout.mark_mem_write` — a finite number has a point or an exponent.
-/

import DataSheet.Number.Layout
import DataSheet.Number.Reader
import DataSheet.Proofs.Digits
import DataSheet.Proofs.Letters
import DataSheet.Proofs.Rounding
import Mathlib.Data.List.TakeDrop

set_option relaxedAutoImplicit false
set_option autoImplicit false

namespace DataSheet

/-! ### Digits -/

namespace Text

variable {base : Nat}

theorem number?_eq_continueNumber? {s : List Char} (hs : s ≠ []) :
    number? base s = continueNumber? base 0 s := if_neg hs

theorem ne_nil_of_number? {s : List Char} {n : Nat} (h : number? base s = some n) : s ≠ [] := by
  rintro rfl
  cases h

theorem number?_toDigits (hb : 1 < base) (hb' : base ≤ 16) (n : Nat) :
    number? base (Nat.toDigits base n) = some n := by
  rw [number?_eq_continueNumber? Nat.toDigits_ne_nil, continueNumber?_toDigits hb hb']

/-- Zeros behind a number. -/
theorem continueNumber?_zeros (hb : 0 < base) (n k : Nat) :
    continueNumber? base n (List.replicate k '0') = some (n * base ^ k) := by
  induction k generalizing n with
  | zero => simp [continueNumber?]
  | succ k ih =>
      rw [List.replicate_succ, continueNumber?, digit?_zero hb]
      dsimp only
      rw [ih, pow_succ']
      congr 1
      ring

end Text

namespace Binary64

open Text (isDigit number? ne_nil_of_number? isDigit_of_number?)

/-- A run of digits ends where something else follows. -/
theorem spanDigits_append {s t : List Char} (hs : ∀ c ∈ s, isDigit 10 c)
    (ht : ∀ c ∈ t.head?, isDigit 10 c = false) : spanDigits (s ++ t) = (s, t) := by
  have htake : t.takeWhile (isDigit 10) = [] := by
    cases t with
    | nil => rfl
    | cons c t => exact List.takeWhile_cons_of_neg (by simp [ht c rfl])
  have hdrop : t.dropWhile (isDigit 10) = t := by
    cases t with
    | nil => rfl
    | cons c t => exact List.dropWhile_cons_of_neg (by simp [ht c rfl])
  unfold spanDigits
  rw [List.span_eq_takeWhile_dropWhile, List.takeWhile_append_of_pos hs,
    List.dropWhile_append_of_pos hs, htake, hdrop, List.append_nil]

/-- The parts of a decimal. -/
theorem decimal?_eq {whole behind fraction rest : List Char} {n : Nat} {e : Int}
    (hwhole : ∀ c ∈ whole, isDigit 10 c) (hbehind : ∀ c ∈ behind.head?, isDigit 10 c = false)
    (hfraction : spanFraction behind = (fraction, rest))
    (hn : number? 10 (whole ++ fraction) = some n) (he : powerOfTen? rest = some e) :
    decimal? (whole ++ behind) = some (n, e - fraction.length) := by
  unfold decimal?
  rw [spanDigits_append hwhole hbehind]
  dsimp only
  rw [hfraction]
  dsimp only
  rw [hn, he]

/-- A decimal with a point. -/
theorem decimal?_point {whole fraction rest : List Char} {n : Nat} {e : Int}
    (hrest : ∀ c ∈ rest.head?, isDigit 10 c = false)
    (hn : number? 10 (whole ++ fraction) = some n) (he : powerOfTen? rest = some e) :
    decimal? (whole ++ '.' :: (fraction ++ rest)) = some (n, e - fraction.length) := by
  have hdigits := isDigit_of_number? hn
  refine decimal?_eq (fun c hc => hdigits c (by simp [hc])) ?_ ?_ hn he
  · intro c hc
    cases hc
    decide
  · exact spanDigits_append (fun c hc => hdigits c (by simp [hc])) hrest

/-- A decimal with a point and no exponent. -/
theorem decimal?_fixed {whole fraction : List Char} {n : Nat}
    (hn : number? 10 (whole ++ fraction) = some n) :
    decimal? (whole ++ '.' :: fraction) = some (n, -(fraction.length : Int)) := by
  have hpower : powerOfTen? [] = some 0 := rfl
  have hdecimal := decimal?_point (by simp) hn hpower
  rwa [List.append_nil, Int.zero_sub] at hdecimal

/-- A decimal that is a whole number, with an exponent. -/
theorem decimal?_bare {whole rest : List Char} {n : Nat} {e : Int}
    (hn : number? 10 whole = some n) (he : powerOfTen? ('e' :: rest) = some e) :
    decimal? (whole ++ 'e' :: rest) = some (n, e) := by
  have hdigits := isDigit_of_number? hn
  have hdecimal : decimal? (whole ++ 'e' :: rest) = some (n, e - ([] : List Char).length) := by
    refine decimal?_eq hdigits ?_ rfl (by rwa [List.append_nil]) he
    intro c hc
    cases hc
    decide
  simpa using hdecimal

/-! ### The two layouts -/

variable {ds : List Char} {n : Nat}

/-- A decimal with places behind the point, written positionally. -/
theorem decimal?_positional_of_neg (hds : number? 10 ds = some n) {exponent : Int}
    (hneg : exponent < 0) :
    decimal? (Layout.positional ds exponent) = some (n, exponent) := by
  unfold Layout.positional
  dsimp only
  rw [if_neg (by omega)]
  split
  next hscale =>
    have hdigits : number? 10 (ds.take (ds.length + exponent).toNat ++
        ds.drop (ds.length + exponent).toNat) = some n := by
      rwa [List.take_append_drop]
    rw [decimal?_fixed hdigits, List.length_drop]
    congr 2
    omega
  next hscale =>
    have hne := ne_nil_of_number? hds
    have hzeros : number? 10 (['0'] ++ (List.replicate (-(ds.length + exponent)).toNat '0' ++ ds)) =
        some n := by
      rw [Text.number?_eq_continueNumber? (by simp), ← List.append_assoc,
        List.singleton_append, ← List.replicate_succ, Text.continueNumber?_replicate (by omega),
        ← Text.number?_eq_continueNumber? hne, hds]
    refine (decimal?_fixed hzeros).trans ?_
    rw [List.length_append, List.length_replicate]
    congr 2
    omega

/-- A whole decimal, written positionally, gets a place behind the point. -/
theorem decimal?_positional_ofNat (hds : number? 10 ds = some n) (e : Nat) :
    decimal? (Layout.positional ds (Int.ofNat e)) = some (n * 10 ^ (e + 1), -1) := by
  have hne := ne_nil_of_number? hds
  have hzeros : number? 10 ((ds ++ List.replicate e '0') ++ ['0']) = some (n * 10 ^ (e + 1)) := by
    rw [Text.number?_eq_continueNumber? (by simp), List.append_assoc, ← List.replicate_succ',
      Text.continueNumber?_append, ← Text.number?_eq_continueNumber? hne, hds, Option.bind_some,
      Text.continueNumber?_zeros (by omega)]
  have hle : (0 : Int) ≤ Int.ofNat e := Int.natCast_nonneg e
  unfold Layout.positional
  rw [if_pos hle]
  exact decimal?_fixed hzeros

theorem powerOfTen?_minus (t : List Char) :
    powerOfTen? ('e' :: '-' :: t) = (number? 10 t).map fun k : Nat => -(k : Int) := by
  simp only [powerOfTen?, true_or, if_true]
  cases number? 10 t <;> rfl

theorem powerOfTen?_plus (t : List Char) :
    powerOfTen? ('e' :: '+' :: t) = (number? 10 t).map fun k : Nat => (k : Int) := by
  simp only [powerOfTen?, true_or, if_true]
  cases number? 10 t <;> rfl

theorem powerOfTen?_bare {t : List Char} (ht : ∀ c ∈ t, isDigit 10 c) :
    powerOfTen? ('e' :: t) = (number? 10 t).map fun k : Nat => (k : Int) := by
  simp only [powerOfTen?, true_or, if_true]
  split
  · exact absurd (ht '-' List.mem_cons_self) (by decide)
  · exact absurd (ht '+' List.mem_cons_self) (by decide)
  · cases number? 10 t <;> rfl

/-- The power of ten behind a decimal. -/
theorem powerOfTen?_exponent (plus : Bool) (scale : Int) :
    powerOfTen? ('e' :: ((if scale < 0 then ['-'] else if plus then ['+'] else []) ++
      Nat.toDigits 10 scale.natAbs)) = some scale := by
  have hdigits : number? 10 (Nat.toDigits 10 scale.natAbs) = some scale.natAbs :=
    Text.number?_toDigits (by omega) (by omega) _
  split
  next hneg =>
    rw [List.singleton_append, powerOfTen?_minus, hdigits, Option.map_some, Option.some.injEq]
    omega
  next hneg =>
    cases plus with
    | true =>
        rw [if_pos rfl, List.singleton_append, powerOfTen?_plus, hdigits, Option.map_some,
          Option.some.injEq]
        omega
    | false =>
        rw [if_neg Bool.false_ne_true, List.nil_append,
          powerOfTen?_bare (isDigit_of_number? hdigits), hdigits, Option.map_some,
          Option.some.injEq]
        omega

/-- A decimal written with an exponent. -/
theorem decimal?_exponential (hds : number? 10 ds = some n) (plus : Bool) (exponent : Int) :
    decimal? (Layout.exponential plus ds exponent) = some (n, exponent) := by
  have hpower := powerOfTen?_exponent plus (ds.length + exponent - 1)
  have hne := ne_nil_of_number? hds
  have hpos : 0 < ds.length := List.length_pos_iff.2 hne
  unfold Layout.exponential
  dsimp only
  simp only [List.append_assoc, List.cons_append]
  split
  next hlen =>
    have hone : ds.take 1 = ds := List.take_of_length_le hlen
    rw [hone, List.nil_append]
    rw [decimal?_bare hds hpower]
    congr 2
    omega
  next hlen =>
    have hdigits : number? 10 (ds.take 1 ++ ds.drop 1) = some n := by
      rwa [List.take_append_drop]
    rw [List.cons_append]
    refine (decimal?_point (by simp; decide) hdigits hpower).trans ?_
    rw [List.length_drop]
    congr 2
    omega

/-! ### Texts of numbers -/

/-- A decimal opens with a digit or a point. -/
theorem head_of_decimal? {c : Char} {t : List Char} {d : Nat × Int}
    (h : decimal? (c :: t) = some d) : isDigit 10 c ∨ c = '.' := by
  by_contra hhead
  rw [not_or] at hhead
  have hspan : spanDigits (c :: t) = ([], c :: t) := by
    refine spanDigits_append (s := []) (by simp) fun d hd => ?_
    cases hd
    simpa using hhead.1
  have hfraction : spanFraction (c :: t) = ([], c :: t) := by
    unfold spanFraction
    split
    next heq =>
      cases heq
      exact absurd rfl hhead.2
    next => rfl
  unfold decimal? at h
  rw [hspan] at h
  dsimp only at h
  rw [hfraction] at h
  cases h

/-- The text of a decimal does not open with a letter. -/
theorem lower_ne_of_decimal? {s : List Char} {d : Nat × Int} (h : decimal? s = some d) {c : Char}
    (hc : 58 ≤ c.toNat) (w : List Char) : Text.lower s ≠ c :: w := by
  cases s with
  | nil => cases h
  | cons b t =>
      intro heq
      have hb : b.toLower = c := (List.cons.inj heq).1
      have hcode : b.toNat < 58 := by
        rcases head_of_decimal? h with hdigit | rfl
        · obtain ⟨k, hk⟩ := Option.isSome_iff_exists.1 hdigit
          have := Text.ranges_of_digit? hk
          have := Text.digit?_lt hk
          omega
        · decide
      rw [← hb, Text.toNat_toLower, if_neg (by omega)] at hc
      omega

/-- The text of a decimal is no word. -/
theorem unsigned?_of_decimal? {s : List Char} {e : Int} (h : decimal? s = some (n, e))
    (negative : Bool) : unsigned? negative s = some (ofDecimal negative n e) := by
  have hinf : Text.lower s ≠ "inf".toList := lower_ne_of_decimal? h (c := 'i') (by decide) _
  have hinfinity : Text.lower s ≠ "infinity".toList :=
    lower_ne_of_decimal? h (c := 'i') (by decide) _
  have hnan : Text.lower s ≠ "nan".toList := lower_ne_of_decimal? h (c := 'n') (by decide) _
  unfold unsigned?
  dsimp only
  rw [if_neg (not_or.2 ⟨hinf, hinfinity⟩), if_neg hnan, h]
  rfl

/-- The text of a decimal, with its sign, is read as the number nearest to it. -/
theorem ofText?_of_decimal? {s : List Char} {e : Int} (h : decimal? s = some (n, e))
    (negative : Bool) :
    ofText? ((if negative then ['-'] else []) ++ s) = some (ofDecimal negative n e) := by
  cases negative with
  | true => exact unsigned?_of_decimal? h true
  | false =>
      rw [if_neg Bool.false_ne_true, List.nil_append]
      unfold ofText?
      split
      · exact absurd (head_of_decimal? h) (by decide)
      · exact absurd (head_of_decimal? h) (by decide)
      · exact unsigned?_of_decimal? h false

/-! ### Numbers -/

/-- The same quotient in other terms. -/
theorem Around.scale {units num den k : Nat} (h : Around units num den) (hk : 0 < k) :
    Around units (num * k) (den * k) where
  low := by
    have := Nat.mul_le_mul_right k h.low
    linarith
  high := by
    have := Nat.mul_le_mul_right k h.high
    linarith
  odd hone := by
    obtain ⟨hlow, hhigh⟩ := h.odd hone
    have hlow := Nat.mul_lt_mul_of_pos_right hlow hk
    have hhigh := Nat.mul_lt_mul_of_pos_right hhigh hk
    constructor <;> linarith

/-- A positional decimal around a number is read as that number. -/
theorem ofText?_positional {negative : Bool} {units : Nat} {exponent : Int} (hu : Exact units)
    (hpos : 0 < units) (hds : number? 10 ds = some n)
    (h : Around units (Shortest.Decimal.ratio ⟨n, exponent⟩).1
      (Shortest.Decimal.ratio ⟨n, exponent⟩).2) :
    ofText? ((if negative then ['-'] else []) ++ Layout.positional ds exponent) =
      some (.finite negative units) := by
  cases exponent with
  | ofNat e =>
      -- one more place is written than the decimal has
      have hten : Around units (n * 10 ^ (e + 1)) (10 ^ 1) := by
        have := h.scale (k := 10) (by omega)
        simp only [Shortest.Decimal.ratio, Nat.pow_eq] at this
        rw [pow_succ, ← Nat.mul_assoc]
        simpa using this
      rw [ofText?_of_decimal? (decimal?_positional_ofNat hds e)]
      exact congrArg some (ofDecimal_of_around hu hpos hten)
  | negSucc e =>
      rw [ofText?_of_decimal? (decimal?_positional_of_neg hds (Int.negSucc_lt_zero e)),
        ofDecimal_of_around hu hpos h]

theorem ofDecimal_zero (negative : Bool) :
    ofDecimal negative 0 (.negSucc 0) = .finite negative 0 := by
  simp only [ofDecimal]
  rw [if_neg (by decide)]
  refine nearest_eq exact_zero.bounded rfl ?_
  simp [roundDiv]

/-- **A finite number is read back**, whatever the layout. -/
theorem ofText?_write (l : Layout) (negative : Bool) {units : Nat} (hu : Exact units) :
    ofText? (l.write (.finite negative units)) = some (.finite negative units) := by
  unfold Layout.write
  dsimp only
  split
  next hzero =>
    subst hzero
    have hdecimal : decimal? ['0', '.', '0'] = some (0, .negSucc 0) := by decide
    rw [ofText?_of_decimal? hdecimal, ofDecimal_zero]
  next hne =>
    have hpos : 0 < units := Nat.pos_of_ne_zero hne
    have haround := Shortest.around_ofUnits l.tie hpos
    generalize Shortest.ofUnits l.tie units = d at haround
    have hdigits : number? 10 (Nat.toDigits 10 d.digits) = some d.digits :=
      Text.number?_toDigits (by omega) (by omega) _
    generalize hsign : (if negative then ['-'] else []) = sign
    split
    · rw [← hsign]
      exact ofText?_positional hu hpos hdigits haround
    · rw [← hsign, ofText?_of_decimal? (decimal?_exponential hdigits l.plus d.exponent),
        ofDecimal_of_around hu hpos haround]

/-- A finite number that is read counts units of the format. -/
theorem exact_of_ofText? {s : List Char} {negative : Bool} {units : Nat}
    (h : ofText? s = some (.finite negative units)) : Exact units := by
  have hunsigned : ∀ {sign t}, unsigned? sign t = some (.finite negative units) → Exact units := by
    intro sign t ht
    unfold unsigned? at ht
    dsimp only at ht
    split at ht
    · cases ht
    split at ht
    · cases ht
    · obtain ⟨d, -, hd⟩ := Option.map_eq_some_iff.1 ht
      exact exact_of_ofDecimal hd
  unfold ofText? at h
  split at h
  · exact hunsigned h
  · exact hunsigned h
  · exact hunsigned h

/-! ### The characters of numbers -/

namespace Layout

/-- The characters of numbers that are no digits. -/
def isMark (c : Char) : Bool := c = '.' || c = 'e' || c = '-' || c = '+'

/-- The characters are those of numbers. -/
def Numeric (s : List Char) : Prop := ∀ c ∈ s, isDigit 10 c ∨ isMark c

instance (s : List Char) : Decidable (Numeric s) := List.decidableBAll _ s

variable {s t : List Char}

theorem Numeric.append (hs : Numeric s) (ht : Numeric t) : Numeric (s ++ t) := by
  intro c hc
  rcases List.mem_append.1 hc with hc | hc
  · exact hs c hc
  · exact ht c hc

theorem Numeric.of_subset (ht : Numeric t) (h : s ⊆ t) : Numeric s := fun c hc => ht c (h hc)

theorem numeric_toDigits (n : Nat) : Numeric (Nat.toDigits 10 n) := fun c hc =>
  .inl (isDigit_of_number? (Text.number?_toDigits (by omega) (by omega) n) c hc)

theorem numeric_replicate (k : Nat) : Numeric (List.replicate k '0') := by
  intro c hc
  rw [(List.mem_replicate.1 hc).2]
  exact .inl (by decide)

theorem numeric_positional (hs : Numeric s) (exponent : Int) : Numeric (positional s exponent) := by
  have hpoint : Numeric ['.'] := by decide
  unfold positional
  dsimp only
  split
  · exact (hs.append (numeric_replicate _)).append (by decide)
  · split
    · exact (hs.of_subset (List.take_subset _ _)).append
        (hpoint.append (hs.of_subset (List.drop_subset _ _)))
    · exact (Numeric.append (s := ['0', '.']) (by decide)
        (numeric_replicate _)).append hs

theorem numeric_exponential (plus : Bool) (hs : Numeric s) (exponent : Int) :
    Numeric (exponential plus s exponent) := by
  have hmark : Numeric ['e'] := by decide
  have hpoint : Numeric ['.'] := by decide
  have hsign : Numeric (if (s.length : Int) + exponent - 1 < 0 then ['-']
      else if plus then ['+'] else []) := by
    split
    · decide
    · cases plus <;> decide
  unfold exponential
  dsimp only
  refine (((hs.of_subset (List.take_subset _ _)).append ?_).append
    (hmark.append hsign)).append (numeric_toDigits _)
  split
  · decide
  · exact hpoint.append (hs.of_subset (List.drop_subset _ _))

/-- The characters of a finite number are digits and marks. -/
theorem numeric_write (l : Layout) (negative : Bool) (units : Nat) :
    Numeric (l.write (.finite negative units)) := by
  have hsign : Numeric (if negative then ['-'] else []) := by
    cases negative <;> decide
  unfold write
  dsimp only
  split
  · exact hsign.append (by decide)
  · refine hsign.append ?_
    split
    · exact numeric_positional (numeric_toDigits _) _
    · exact numeric_exponential l.plus (numeric_toDigits _) _

/-- There are no blanks around a finite number. -/
theorem trim_write (l : Layout) (negative : Bool) (units : Nat) :
    Text.trim (l.write (.finite negative units)) = l.write (.finite negative units) := by
  have hmark : ∀ {c}, isMark c → Text.isBlank c = false := by
    intro c hc
    simp only [isMark, Bool.or_eq_true, decide_eq_true_eq] at hc
    rcases hc with ((rfl | rfl) | rfl) | rfl <;> rfl
  refine Text.trim_of_not_isBlank fun c hc => ?_
  rcases numeric_write l negative units c hc with hc | hc
  · exact Text.not_isBlank_of_isDigit hc
  · exact hmark hc

theorem point_mem_positional (s : List Char) (exponent : Int) : '.' ∈ positional s exponent := by
  unfold positional
  dsimp only
  split
  · simp
  · split <;> simp

theorem mark_mem_exponential (plus : Bool) (s : List Char) (exponent : Int) :
    'e' ∈ exponential plus s exponent := by
  unfold exponential
  simp

/-- A finite number has a point or an exponent. -/
theorem mark_mem_write (l : Layout) (negative : Bool) (units : Nat) :
    '.' ∈ l.write (.finite negative units) ∨ 'e' ∈ l.write (.finite negative units) := by
  unfold write
  dsimp only
  split
  · exact .inl (by simp)
  · generalize (if negative then ['-'] else []) = sign
    split
    · exact .inl (List.mem_append_right sign (point_mem_positional _ _))
    · exact .inr (List.mem_append_right sign (mark_mem_exponential _ _ _))

end Layout

end Binary64

end DataSheet
