/-
**Literals of whole numbers.**

A whole number may be written in decimal or in hexadecimal, with or without a sign, and relative to
the node or not.  This module gives the grammar of what is left of a literal without its blanks and
in upper case, and shows that reading follows it: a literal denotes exactly what the grammar says,
and an integer type takes it exactly if it lies in its range.  All numbers on the way fit in words
of 128 bits, and no bits are lost where the last of them is stored.

Main definitions:

* `Text.Numeral` — digits with their value;
* `Literal.Magnitude`, `Literal.Whole` — numbers without and with a sign;
* `Literal.Stands` — what stands for a whole number, for a node;
* `Literal.Wide` — a number fits in a word of 128 bits.

Main results:

* `Text.number?_eq_some_iff` — a run of digits has the value that positions give it;
* `Literal.integer?_eq_some_iff` — **a literal denotes a number exactly by the grammar**;
* `Literal.outcome_value_of_isInteger` — what an integer type makes of a literal;
* `integers_mean_what_they_say` — **both together**, with the bounds on all numbers on the way.
-/

import DataSheet.Proofs.Digits
import DataSheet.Proofs.Letters
import DataSheet.Proofs.Typing

set_option relaxedAutoImplicit false
set_option autoImplicit false

namespace DataSheet

/-! ### Digits in upper case -/

namespace Text

variable {base : Nat}

/-- Digits of a base, in upper case, and the number that they write. -/
inductive Numeral (base : Nat) : List Char → Nat → Prop
  | digit {d : Nat} (hd : d < base) : Numeral base [(Nat.digitChar d).toUpper] d
  | append {s : List Char} {n d : Nat} (h : Numeral base s n) (hd : d < base) :
      Numeral base (s ++ [(Nat.digitChar d).toUpper]) (base * n + d)

theorem toUpper_toUpper (c : Char) : c.toUpper.toUpper = c.toUpper := by
  rw [← Char.toNat_inj, toNat_toUpper, toNat_toUpper]
  grind

theorem toUpper_of_mem_upper {s : List Char} {c : Char} (hc : c ∈ upper s) : c.toUpper = c := by
  obtain ⟨d, -, rfl⟩ := List.mem_map.1 hc
  exact toUpper_toUpper d

/-- A digit in upper case. -/
theorem digit?_eq_some_iff (hb : base ≤ 16) {c : Char} (hc : c.toUpper = c) {d : Nat} :
    digit? base c = some d ↔ d < base ∧ c = (Nat.digitChar d).toUpper := by
  constructor
  · intro h
    refine ⟨digit?_lt h, ?_⟩
    rcases eq_of_digit? h with rfl | h
    · exact hc.symm
    · exact h
  · rintro ⟨hd, rfl⟩
    exact digit?_toUpper_digitChar hb hd

theorem continueNumber?_concat (n : Nat) (s : List Char) (c : Char) :
    continueNumber? base n (s ++ [c]) =
      (continueNumber? base n s).bind fun m => (digit? base c).map (base * m + ·) := by
  rw [continueNumber?_append]
  refine congrArg (Option.bind _) (funext fun m => ?_)
  rw [continueNumber?]
  cases digit? base c <;> rfl

theorem Numeral.ne_nil {s : List Char} {n : Nat} (h : Numeral base s n) : s ≠ [] := by
  cases h <;> simp

theorem continueNumber?_of_numeral (hb : base ≤ 16) {s : List Char} {n : Nat}
    (h : Numeral base s n) : continueNumber? base 0 s = some n := by
  induction h with
  | digit hd => simp [continueNumber?, digit?_toUpper_digitChar hb hd]
  | append h hd ih =>
      rw [continueNumber?_concat, ih, digit?_toUpper_digitChar hb hd]
      rfl

/-- **A run of digits has the value that positions give it.** -/
theorem number?_eq_some_iff (hb : base ≤ 16) {s : List Char} (hs : ∀ c ∈ s, c.toUpper = c)
    {n : Nat} : number? base s = some n ↔ Numeral base s n := by
  constructor
  · intro h
    rw [number?] at h
    split at h
    · cases h
    next hne =>
      induction s using List.reverseRecOn generalizing n with
      | nil => exact absurd rfl hne
      | append_singleton s c ih =>
          rw [continueNumber?_concat] at h
          obtain ⟨m, hm, h⟩ := Option.bind_eq_some_iff.1 h
          obtain ⟨d, hd, rfl⟩ := Option.map_eq_some_iff.1 h
          have hc : c.toUpper = c := hs c (by simp)
          obtain ⟨hlt, rfl⟩ := (digit?_eq_some_iff hb hc).1 hd
          rcases eq_or_ne s [] with rfl | hsne
          · -- the value of no digits is zero
            cases hm
            simpa using Numeral.digit hlt
          · exact .append (ih (fun c hc => hs c (by simp [hc])) hsne hm) hlt
  · intro h
    rw [number?, if_neg h.ne_nil]
    exact continueNumber?_of_numeral hb h

/-- The characters of a number in upper case are digits. -/
theorem Numeral.isDigit (hb : base ≤ 16) {s : List Char} {n : Nat} (h : Numeral base s n) :
    ∀ c ∈ s, Text.isDigit base c :=
  isDigit_of_continueNumber? (continueNumber?_of_numeral hb h)

end Text

namespace Literal

/-! ### The grammar -/

/-- A number without a sign, of at most 64 bits: decimal, or hexadecimal behind its mark. -/
inductive Magnitude : List Char → Nat → Prop
  | decimal {s : List Char} {n : Nat} (h : Text.Numeral 10 s n) (hn : n ≤ 2 ^ 64 - 1) :
      Magnitude s n
  | hexadecimal {s : List Char} {n : Nat} (h : Text.Numeral 16 s n) (hn : n ≤ 2 ^ 64 - 1) :
      Magnitude ('0' :: 'X' :: s) n

/-- A number with at most one sign. -/
inductive Whole : List Char → Int → Prop
  | bare {s : List Char} {n : Nat} (h : Magnitude s n) : Whole s n
  | plus {s : List Char} {n : Nat} (h : Magnitude s n) : Whole ('+' :: s) n
  | minus {s : List Char} {n : Nat} (h : Magnitude s n) : Whole ('-' :: s) (-n)

/-- What stands for a whole number: a number, or one behind `$NODEID+` or before `+$NODEID`, to
which the id of the node is added, if there is a node. -/
inductive Stands (node : Option UInt8) : List Char → Int → Prop
  | absolute {s : List Char} {n : Int} (h : Whole s n) : Stands node s n
  | behindNode {s : List Char} {n : Int} {id : UInt8} (hid : node = some id) (h : Whole s n) :
      Stands node (leadingTerm ++ s) (n + id.toNat)
  | beforeNode {s : List Char} {n : Int} {id : UInt8} (hid : node = some id) (h : Whole s n) :
      Stands node (s ++ trailingTerm) (n + id.toNat)

/-- The number fits in a word of 128 bits with a sign. -/
def Wide (n : Int) : Prop := -2 ^ 127 ≤ n ∧ n < 2 ^ 127

/-! ### Reading by the grammar -/

variable {s : List Char}

/-- A compact literal is in upper case. -/
theorem toUpper_of_mem_compact : ∀ c ∈ compact s, c.toUpper = c := fun _ hc =>
  Text.toUpper_of_mem_upper hc

/-- The mark of hexadecimal numbers is no decimal digit. -/
theorem number?_ten_mark (h : List Char) : Text.number? 10 ('0' :: 'X' :: h) = none := by
  rfl

theorem magnitude?_eq_some_iff (hs : ∀ c ∈ s, c.toUpper = c) {n : Nat} :
    magnitude? s = some n ↔ Magnitude s n := by
  have hbound : ∀ m : Nat, m < UInt64.size ↔ m ≤ 2 ^ 64 - 1 := fun m => by
    change m < 2 ^ 64 ↔ _
    omega
  unfold magnitude?
  simp only [Option.filter_eq_some_iff, decide_eq_true_eq, hbound]
  constructor
  · rintro ⟨h, hn⟩
    split at h
    next t =>
      have ht : ∀ c ∈ t, c.toUpper = c := fun c hc => hs c (by simp [hc])
      exact .hexadecimal ((Text.number?_eq_some_iff le_rfl ht).1 h) hn
    next => exact .decimal ((Text.number?_eq_some_iff (by omega) hs).1 h) hn
  · intro h
    cases h with
    | decimal h hn =>
        have h := (Text.number?_eq_some_iff (by omega) hs).2 h
        refine ⟨?_, hn⟩
        split
        next t =>
          rw [number?_ten_mark] at h
          cases h
        next => exact h
    | @hexadecimal t n h hn =>
        have ht : ∀ c ∈ t, c.toUpper = c := fun c hc => hs c (by simp [hc])
        exact ⟨(Text.number?_eq_some_iff le_rfl ht).2 h, hn⟩

/-- A number without a sign is not empty, and no character of it is a sign or the mark of the
node. -/
theorem Magnitude.not_mem {n : Nat} (h : Magnitude s n) {c : Char}
    (hc : Text.isDigit 16 c = false) (hmark : c ≠ 'X') : c ∉ s := by
  intro hmem
  have hdigits : ∀ {base t}, base ≤ 16 → Text.Numeral base t n → c ∉ t := by
    intro base t hb ht hct
    obtain ⟨d, hd⟩ := Option.isSome_iff_exists.1 (ht.isDigit hb c hct)
    have hsixteen := ((Text.digit?_eq_some_iff_sixteen hb).1 hd).1
    rw [Text.isDigit, hsixteen] at hc
    cases hc
  cases h with
  | decimal h hn => exact hdigits (by omega) h hmem
  | hexadecimal h hn =>
      rcases List.mem_cons.1 hmem with rfl | hmem
      · exact absurd hc (by decide)
      rcases List.mem_cons.1 hmem with rfl | hmem
      · exact hmark rfl
      · exact hdigits le_rfl h hmem

theorem Magnitude.ne_nil {n : Nat} (h : Magnitude s n) : s ≠ [] := by
  cases h with
  | decimal h hn => exact h.ne_nil
  | hexadecimal h hn => simp

theorem Whole.ne_nil {n : Int} (h : Whole s n) : s ≠ [] := by
  cases h with
  | bare h => exact h.ne_nil
  | plus h | minus h => simp

/-- The mark of the node does not occur in a number. -/
theorem Whole.not_mem_mark {n : Int} (h : Whole s n) : '$' ∉ s := by
  cases h with
  | bare h => exact h.not_mem (by decide) (by decide)
  | plus h | minus h => simpa using h.not_mem (by decide) (by decide)

theorem signed?_minus (s : List Char) :
    signed? ('-' :: s) = (magnitude? s).map fun n : Nat => -(n : Int) := by
  rw [signed?]
  cases magnitude? s <;> rfl

theorem signed?_plus (s : List Char) :
    signed? ('+' :: s) = (magnitude? s).map fun n : Nat => (n : Int) := by
  rw [signed?]
  cases magnitude? s <;> rfl

theorem signed?_bare {s : List Char} (hminus : s.head? ≠ some '-') (hplus : s.head? ≠ some '+') :
    signed? s = (magnitude? s).map fun n : Nat => (n : Int) := by
  unfold signed?
  split
  · exact absurd rfl hminus
  · exact absurd rfl hplus
  · cases magnitude? s <;> rfl

/-- A number opens with a sign, or is its own magnitude. -/
theorem magnitude?_of_signed? {n : Int} (h : signed? s = some n) :
    (∃ t m, s = '-' :: t ∧ magnitude? t = some m ∧ n = -m) ∨
      (∃ t m, s = '+' :: t ∧ magnitude? t = some m ∧ n = m) ∨
      ∃ m, magnitude? s = some m ∧ n = m := by
  by_cases hminus : s.head? = some '-'
  · obtain ⟨t, rfl⟩ := List.head?_eq_some_iff.1 hminus
    rw [signed?_minus] at h
    obtain ⟨m, hm, rfl⟩ := Option.map_eq_some_iff.1 h
    exact .inl ⟨t, m, rfl, hm, rfl⟩
  by_cases hplus : s.head? = some '+'
  · obtain ⟨t, rfl⟩ := List.head?_eq_some_iff.1 hplus
    rw [signed?_plus] at h
    obtain ⟨m, hm, rfl⟩ := Option.map_eq_some_iff.1 h
    exact .inr (.inl ⟨t, m, rfl, hm, rfl⟩)
  · rw [signed?_bare hminus hplus] at h
    obtain ⟨m, hm, rfl⟩ := Option.map_eq_some_iff.1 h
    exact .inr (.inr ⟨m, hm, rfl⟩)

theorem signed?_eq_some_iff (hs : ∀ c ∈ s, c.toUpper = c) {n : Int} :
    signed? s = some n ↔ Whole s n := by
  constructor
  · intro h
    rcases magnitude?_of_signed? h with ⟨t, m, rfl, hm, rfl⟩ | ⟨t, m, rfl, hm, rfl⟩ | ⟨m, hm, rfl⟩
    · exact .minus ((magnitude?_eq_some_iff fun c hc => hs c (by simp [hc])).1 hm)
    · exact .plus ((magnitude?_eq_some_iff fun c hc => hs c (by simp [hc])).1 hm)
    · exact .bare ((magnitude?_eq_some_iff hs).1 hm)
  · intro h
    cases h with
    | bare h =>
        -- a number without a sign does not open with one
        have hminus := mt List.mem_of_head? (h.not_mem (c := '-') (by decide) (by decide))
        have hplus := mt List.mem_of_head? (h.not_mem (c := '+') (by decide) (by decide))
        rw [signed?_bare hminus hplus, (magnitude?_eq_some_iff hs).2 h]
        rfl
    | plus h =>
        rw [signed?_plus, (magnitude?_eq_some_iff fun c hc => hs c (by simp [hc])).2 h]
        rfl
    | minus h =>
        rw [signed?_minus, (magnitude?_eq_some_iff fun c hc => hs c (by simp [hc])).2 h]
        rfl

/-! ### The term of the node -/

theorem splitTerm_leading (s : List Char) : splitTerm (leadingTerm ++ s) = (s, true) := by
  unfold splitTerm
  rw [if_pos (List.isPrefixOf_iff_prefix.2 (List.prefix_append _ _)), List.drop_left]

theorem splitTerm_trailing {s : List Char} (hne : s ≠ []) (hmark : '$' ∉ s) :
    splitTerm (s ++ trailingTerm) = (s, true) := by
  have hleading : ¬ leadingTerm.isPrefixOf (s ++ trailingTerm) := by
    intro h
    obtain ⟨t, ht⟩ := List.isPrefixOf_iff_prefix.1 h
    have hhead : (s ++ trailingTerm).head? = some '$' := by
      rw [← ht]
      rfl
    rw [List.head?_append_of_ne_nil _ hne] at hhead
    exact hmark (List.mem_of_head? hhead)
  unfold splitTerm
  rw [if_neg hleading, if_pos (List.isSuffixOf_iff_suffix.2 (List.suffix_append _ _)),
    List.length_append, Nat.add_sub_cancel, List.take_left]

theorem splitTerm_of_not_mem {s : List Char} (hmark : '$' ∉ s) : splitTerm s = (s, false) := by
  have hleading : ¬ leadingTerm.isPrefixOf s := fun h =>
    hmark ((List.isPrefixOf_iff_prefix.1 h).subset (by decide))
  have htrailing : ¬ trailingTerm.isSuffixOf s := fun h =>
    hmark ((List.isSuffixOf_iff_suffix.1 h).subset (by decide))
  unfold splitTerm
  rw [if_neg hleading, if_neg htrailing]

/-- The ways in which a term of the node is split off. -/
theorem splitTerm_cases (s : List Char) :
    (∃ t, s = leadingTerm ++ t ∧ splitTerm s = (t, true)) ∨
      (∃ t, s = t ++ trailingTerm ∧ splitTerm s = (t, true)) ∨ splitTerm s = (s, false) := by
  unfold splitTerm
  split
  next h =>
    obtain ⟨t, rfl⟩ := List.isPrefixOf_iff_prefix.1 h
    exact .inl ⟨t, rfl, by rw [List.drop_left]⟩
  split
  next h =>
    obtain ⟨t, rfl⟩ := List.isSuffixOf_iff_suffix.1 h
    exact .inr (.inl ⟨t, rfl, by simp⟩)
  next => exact .inr (.inr rfl)

/-- A number relative to the node. -/
theorem relative_eq_some_iff (node : Option UInt8) {s : List Char} (hs : ∀ c ∈ s, c.toUpper = c)
    {n : Int} :
    (match node, signed? s with
      | some id, some n => some (n + id.toNat)
      | _, _ => none) = some n ↔
    ∃ id m, node = some id ∧ Whole s m ∧ n = m + id.toNat := by
  simp only [← signed?_eq_some_iff hs]
  cases node with
  | none => simp
  | some id => cases signed? s <;> simp [eq_comm]

/-- **A literal denotes a number exactly by the grammar.** -/
theorem integer?_eq_some_iff {node : Option UInt8} {s : List Char} {n : Int} :
    integer? node s = some n ↔ Stands node (compact s) n := by
  have hs := toUpper_of_mem_compact (s := s)
  unfold integer?
  generalize compact s = c at hs
  constructor
  · intro h
    rcases splitTerm_cases c with ⟨t, rfl, hsplit⟩ | ⟨t, rfl, hsplit⟩ | hsplit
    · have ht : ∀ c ∈ t, c.toUpper = c := fun c hc => hs c (by simp [hc])
      rw [hsplit] at h
      obtain ⟨id, m, hid, hm, rfl⟩ := (relative_eq_some_iff node ht).1 h
      exact .behindNode hid hm
    · have ht : ∀ c ∈ t, c.toUpper = c := fun c hc => hs c (by simp [hc])
      rw [hsplit] at h
      obtain ⟨id, m, hid, hm, rfl⟩ := (relative_eq_some_iff node ht).1 h
      exact .beforeNode hid hm
    · rw [hsplit] at h
      exact .absolute ((signed?_eq_some_iff hs).1 h)
  · intro h
    cases h with
    | absolute h =>
        rw [splitTerm_of_not_mem h.not_mem_mark]
        exact (signed?_eq_some_iff hs).2 h
    | @behindNode t m id hid h =>
        have ht : ∀ c ∈ t, c.toUpper = c := fun c hc => hs c (by simp [hc])
        rw [splitTerm_leading]
        exact (relative_eq_some_iff node ht).2 ⟨id, m, hid, h, rfl⟩
    | @beforeNode t m id hid h =>
        have ht : ∀ c ∈ t, c.toUpper = c := fun c hc => hs c (by simp [hc])
        rw [splitTerm_trailing h.ne_nil h.not_mem_mark]
        exact (relative_eq_some_iff node ht).2 ⟨id, m, hid, h, rfl⟩

/-- A literal that denotes a whole number is not blank. -/
theorem isBlank_of_integer? {node : Option UInt8} {literal : String} {n : Int}
    (h : integer? node literal.toList = some n) : isBlank literal = false := by
  by_contra hblank
  have hall := Text.blank_of_trim_eq_nil (by simpa [isBlank] using hblank)
  have hcompact : compact literal.toList = [] := by
    unfold compact
    rw [List.filter_eq_nil_iff.2 fun c hc => by simp [hall c hc]]
    rfl
  unfold integer? at h
  rw [hcompact] at h
  cases h

/-! ### Numbers on the way -/

/-- A magnitude fits in a word of 128 bits, with either sign. -/
theorem wide_of_magnitude? {s : List Char} {n : Nat} (h : magnitude? s = some n) :
    Wide n ∧ Wide (-n) := by
  have hn : n < 2 ^ 64 := by simpa using (Option.filter_eq_some_iff.1 h).2
  unfold Wide
  constructor <;> constructor <;> omega

/-- A number with a sign fits, and so does what the id of a node makes of it. -/
theorem wide_of_signed? {s : List Char} {n : Int} (h : signed? s = some n) (id : UInt8) :
    Wide n ∧ Wide (n + id.toNat) := by
  have hid : id.toNat < 256 := id.toNat_lt
  have hbound : ∀ {t m}, magnitude? t = some m → m < 2 ^ 64 := fun hm => by
    simpa using (Option.filter_eq_some_iff.1 hm).2
  unfold Wide
  rcases magnitude?_of_signed? h with ⟨t, m, -, hm, rfl⟩ | ⟨t, m, -, hm, rfl⟩ | ⟨m, hm, rfl⟩
  all_goals
    have hm := hbound hm
    constructor <;> constructor <;> omega

/-! ### Integer types -/

theorem parse?_of_isInteger {t : DataType} (ht : t.isInteger) (node : Option UInt8)
    (literal : String) :
    parse? t node literal = (integer? node literal.toList).bind (ofInt? t) := by
  cases t <;> first | rfl | cases ht

/-- What an integer type makes of a literal that is not blank. -/
theorem outcome_value_of_isInteger {t : DataType} (ht : t.isInteger) {literal : String}
    (hblank : isBlank literal = false) (a : Address) (field : Field) (node : Option UInt8) :
    (value a field t node literal).outcome =
      match (integer? node literal.toList).bind (ofInt? t) with
      | some x => .ok (some x)
      | none => .error (.badLiteral a field literal) := by
  have homitted : ¬ Omitted t literal := by
    rintro (rfl | h)
    · cases ht
    · simp [hblank] at h
  rw [← parse?_of_isInteger ht]
  cases hx : parse? t node literal <;> rw [outcome_value, if_neg homitted, hx]

/-- The values that an integer type gives a literal are those of the number that it denotes. -/
theorem bind_ofInt?_eq_some_iff {t : DataType} {node : Option UInt8} {s : List Char} {x : Value} :
    (integer? node s).bind (ofInt? t) = some x ↔
      ∃ n, Stands node (compact s) n ∧ t.Spans n ∧ x.Stores t n := by
  simp only [Option.bind_eq_some_iff, integer?_eq_some_iff, ofInt?_eq_some_iff]

end Literal

open Literal

/-- **Literals of whole numbers mean what they say.**  A literal denotes exactly the number that it
stands for by the grammar.  An integer type takes it exactly if that number lies in its range,
stores that very number, and else refuses the literal as it is written.  All numbers on the way fit
in words of 128 bits. -/
theorem integers_mean_what_they_say (node : Option UInt8) (literal : String) :
    (∀ n, integer? node literal.toList = some n ↔ Stands node (compact literal.toList) n) ∧
      (∀ (a : Address) (field : Field) (t : DataType), t.isInteger → isBlank literal = false →
        ((∃ x, (value a field t node literal).outcome = .ok (some x)) ↔
          ∃ n, Stands node (compact literal.toList) n ∧ t.Spans n) ∧
        (∀ x, (value a field t node literal).outcome = .ok (some x) →
          ∃ n, Stands node (compact literal.toList) n ∧ t.Spans n ∧ x.Stores t n) ∧
        ((¬ ∃ n, Stands node (compact literal.toList) n ∧ t.Spans n) →
          (value a field t node literal).outcome = .error (.badLiteral a field literal))) ∧
      (∀ s m, magnitude? s = some m → Wide m ∧ Wide (-m)) ∧
      ∀ s n (id : UInt8), signed? s = some n → Wide n ∧ Wide (n + id.toNat) := by
  refine ⟨fun n => integer?_eq_some_iff, fun a field t ht hblank => ?_,
    fun s m hm => wide_of_magnitude? hm, fun s n id hn => wide_of_signed? hn id⟩
  rw [outcome_value_of_isInteger ht hblank]
  cases hx : (integer? node literal.toList).bind (ofInt? t) with
  | some x =>
      obtain ⟨n, hn, hspans, hstores⟩ := bind_ofInt?_eq_some_iff.1 hx
      refine ⟨⟨fun _ => ⟨n, hn, hspans⟩, fun _ => ⟨x, rfl⟩⟩, fun y hy => ?_, fun hnone => ?_⟩
      · cases hy
        exact ⟨n, hn, hspans, hstores⟩
      · exact absurd ⟨n, hn, hspans⟩ hnone
  | none =>
      have hnone : ¬ ∃ n, Stands node (compact literal.toList) n ∧ t.Spans n := by
        rintro ⟨n, hn, hspans⟩
        obtain ⟨x, hstores⟩ := exists_stores hspans
        cases hx.symm.trans (bind_ofInt?_eq_some_iff.2 ⟨n, hn, hspans, hstores⟩)
      refine ⟨⟨fun ⟨y, hy⟩ => ?_, fun h => absurd h hnone⟩, fun y hy => ?_, fun _ => rfl⟩
      · cases hy
      · cases hy

end DataSheet
