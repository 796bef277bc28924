/-
**How headings are spelled.**

What a section is about follows from its name: four hexadecimal digits for an object, with more
behind them for its members and for a list of their names, or one of two words.  This module says
which names spell which heading, and which ones are refused.

Main definitions:

* `Heading.Index` — four digits denote an index;
* `Heading.Spelled` — a name spells a heading;
* `Heading.Oversized` — a name spells a subindex of more than eight bits.

Main results:

* `Text.number?_lt` — digits denote numbers below the power of their base;
* `Heading.index?_eq_some_iff` — the digits of an index and what is behind them;
* `Heading.ofName_eq_ok_iff`, `Heading.ofName_eq_error_iff` — **a name is about what it spells**,
  and refused exactly if its subindex has too many bits.
-/

import DataSheet.Proofs.Digits
import DataSheet.Sheet.Heading

set_option relaxedAutoImplicit false
set_option autoImplicit false

namespace DataSheet

/-! ### Digits -/

theorem Text.continueNumber?_lt {base n m : Nat} {s : List Char}
    (h : continueNumber? base n s = some m) : m < (n + 1) * base ^ s.length := by
  induction s generalizing n with
  | nil =>
      cases h
      simp
  | cons c s ih =>
      rw [continueNumber?] at h
      cases hd : digit? base c with
      | none =>
          rw [hd] at h
          cases h
      | some d =>
          rw [hd] at h
          have hlt := digit?_lt hd
          calc m < (base * n + d + 1) * base ^ s.length := ih h
            _ ≤ ((n + 1) * base) * base ^ s.length := by
                refine Nat.mul_le_mul_right _ ?_
                rw [Nat.add_mul, Nat.mul_comm n base]
                omega
            _ = (n + 1) * base ^ (c :: s).length := by
                rw [List.length_cons, Nat.pow_succ, Nat.mul_assoc, Nat.mul_comm base]

/-- Digits denote numbers below the power of their base. -/
theorem Text.number?_lt {base n : Nat} {s : List Char} (h : number? base s = some n) :
    n < base ^ s.length := by
  unfold number? at h
  split at h
  · cases h
  · simpa using continueNumber?_lt h

namespace Heading

/-! ### Spellings -/

/-- Four hexadecimal digits denote an index. -/
def Index (digits : List Char) (i : UInt16) : Prop :=
  digits.length = 4 ∧ Text.number? 16 digits = some i.toNat

/-- The words that announce a subindex. -/
def Announces (word : List Char) : Prop := word = "sub".toList ∨ word = "Sub".toList

/-- A name spells a heading. -/
inductive Spelled : List Char → Heading → Prop
  | object {digits : List Char} {i : UInt16} (index : Index digits i) : Spelled digits (.object i)
  | member {digits word rest : List Char} {i : UInt16} {k : UInt8} (index : Index digits i)
      (announced : Announces word) (subindex : Text.number? 16 rest = some k.toNat) :
      Spelled (digits ++ (word ++ rest)) (.member i k)
  | nameList {digits : List Char} {i : UInt16} (index : Index digits i) :
      Spelled (digits ++ "Name".toList) (.nameList i)
  | dummyUsage {s : List Char} (word : Text.sameFolded s "DummyUsage".toList) :
      Spelled s .dummyUsage
  | commissioning {s : List Char} (word : Text.sameFolded s "DeviceComissioning".toList) :
      Spelled s .commissioning

theorem Spelled.ne_other {s : List Char} {h : Heading} (hs : Spelled s h) : h ≠ .other := by
  cases hs <;> nofun

/-- A name spells a subindex of more than eight bits. -/
def Oversized (s : List Char) : Prop :=
  ∃ digits word rest i n, Index digits i ∧ Announces word ∧ s = digits ++ (word ++ rest) ∧
    Text.number? 16 rest = some n ∧ 0xFF < n

/-! ### Parts of names -/

theorem index?_eq_some_iff {s tail : List Char} {i : UInt16} :
    index? s = some (i, tail) ↔ ∃ digits, Index digits i ∧ s = digits ++ tail := by
  constructor
  · intro h
    match s, h with
    | a :: b :: c :: d :: rest, h =>
        obtain ⟨n, hn, h⟩ := Option.map_eq_some_iff.1 h
        cases h
        have hsize : n < UInt16.size := by
          simpa using Text.number?_lt hn
        refine ⟨[a, b, c, d], ⟨rfl, ?_⟩, rfl⟩
        rw [hn, UInt16.toNat_ofNat_of_lt' hsize]
  · rintro ⟨digits, ⟨hlength, hn⟩, rfl⟩
    match digits, hlength with
    | [a, b, c, d], _ =>
        change (Text.number? 16 [a, b, c, d]).map _ = _
        rw [hn, Option.map_some, UInt16.ofNat_toNat]
        rfl

theorem subindexDigits?_eq_some_iff {tail rest : List Char} :
    subindexDigits? tail = some rest ↔ ∃ word, Announces word ∧ tail = word ++ rest := by
  constructor
  · intro h
    unfold subindexDigits? at h
    split at h
    · cases h
      exact ⟨_, .inl rfl, rfl⟩
    · cases h
      exact ⟨_, .inr rfl, rfl⟩
    · cases h
  · rintro ⟨word, rfl | rfl, rfl⟩ <;> rfl

theorem not_isDigit_of_toLower {c : Char} (h : c.toLower = 'u' ∨ c.toLower = 'v') :
    Text.isDigit 16 c = false := by
  have hcases : c = 'u' ∨ c = 'U' ∨ c = 'v' ∨ c = 'V' := by
    unfold Char.toLower at h
    split at h
    · have hval : ∀ {a b : Char}, c.val + ('a'.val - 'A'.val) = a.val → b.val = a.val - 32 →
          c = b := by
        intro a b ha hb
        apply Char.ext
        rw [hb, ← ha]
        simp
      rcases h with h | h
      · exact .inr (.inl (hval (congrArg Char.val h) rfl))
      · exact .inr (.inr (.inr (hval (congrArg Char.val h) rfl)))
    · rcases h with rfl | rfl
      · exact .inl rfl
      · exact .inr (.inr (.inl rfl))
  rcases hcases with rfl | rfl | rfl | rfl <;> decide

/-- The two words have letters where an index has digits. -/
theorem not_sameFolded_of_index {digits : List Char} {i : UInt16} (h : Index digits i)
    (tail : List Char) :
    Text.sameFolded (digits ++ tail) "DummyUsage".toList = false ∧
      Text.sameFolded (digits ++ tail) "DeviceComissioning".toList = false := by
  obtain ⟨hlength, hn⟩ := h
  match digits, hlength with
  | [a, b, c, d], _ =>
      have hdigit := Text.isDigit_of_number? hn
      have hb : Text.isDigit 16 b := hdigit b (by simp)
      have hc : Text.isDigit 16 c := hdigit c (by simp)
      constructor
      · by_contra hs
        have hlower := (Text.sameFolded_iff _ _).1 (by simpa using hs)
        have hu : b.toLower = 'u' := (List.cons.inj (List.cons.inj hlower).2).1
        rw [not_isDigit_of_toLower (.inl hu)] at hb
        cases hb
      · by_contra hs
        have hlower := (Text.sameFolded_iff _ _).1 (by simpa using hs)
        have hv : c.toLower = 'v' := (List.cons.inj (List.cons.inj (List.cons.inj hlower).2).2).1
        rw [not_isDigit_of_toLower (.inr hv)] at hc
        cases hc

/-! ### Names and what they spell -/

/-- What is behind an index decides what a name with an index is about. -/
theorem ofName_of_index {digits tail : List Char} {i : UInt16} (h : Index digits i) {name : String}
    (hname : name.toList = digits ++ tail) : ofName name = ofTail i tail := by
  obtain ⟨hdummy, hcommissioning⟩ := not_sameFolded_of_index h tail
  have hindex := index?_eq_some_iff.2 ⟨digits, h, hname⟩
  unfold ofName
  dsimp only
  rw [hindex, hname, hdummy, hcommissioning]
  rfl

theorem ofTail_of_announces {word rest : List Char} (h : Announces word) {n : Nat}
    (hn : Text.number? 16 rest = some n) (i : UInt16) :
    ofTail i (word ++ rest) =
      if n < 256 then .ok (.member i (UInt8.ofNat n)) else .error .subindexTooLarge := by
  have hdigits : subindexDigits? (word ++ rest) = some rest :=
    subindexDigits?_eq_some_iff.2 ⟨word, h, rfl⟩
  unfold ofTail
  rw [if_neg, if_neg, hdigits, Option.bind_some, hn]
  · rcases h with rfl | rfl <;> simp
  · rcases h with rfl | rfl <;> simp

/-- What is behind an index is nothing, the word for a list, or a subindex, or else it tells
nothing. -/
theorem ofTail_cases (i : UInt16) (tail : List Char) :
    tail = [] ∧ ofTail i tail = .ok (.object i) ∨
    tail = "Name".toList ∧ ofTail i tail = .ok (.nameList i) ∨
    (∃ word rest n, Announces word ∧ Text.number? 16 rest = some n ∧ tail = word ++ rest) ∨
    ofTail i tail = .ok .other := by
  by_cases hempty : tail = []
  · exact .inl ⟨hempty, by rw [ofTail, if_pos hempty]⟩
  by_cases hname : tail = "Name".toList
  · exact .inr (.inl ⟨hname, by rw [ofTail, if_neg hempty, if_pos hname]⟩)
  cases hn : (subindexDigits? tail).bind (Text.number? 16) with
  | none =>
      refine .inr (.inr (.inr ?_))
      rw [ofTail, if_neg hempty, if_neg hname, hn]
  | some n =>
      obtain ⟨rest, hrest, hn⟩ := Option.bind_eq_some_iff.1 hn
      obtain ⟨word, hword, htail⟩ := subindexDigits?_eq_some_iff.1 hrest
      exact .inr (.inr (.inl ⟨word, rest, n, hword, hn, htail⟩))

/-- A name is one of two words, or starts with an index, or tells nothing. -/
theorem ofName_cases (name : String) :
    (Text.sameFolded name.toList "DummyUsage".toList ∧ ofName name = .ok .dummyUsage) ∨
    (Text.sameFolded name.toList "DeviceComissioning".toList ∧ ofName name = .ok .commissioning) ∨
    (∃ digits tail i, Index digits i ∧ name.toList = digits ++ tail) ∨
    ofName name = .ok .other := by
  unfold ofName
  dsimp only
  split
  next hword => exact .inl ⟨hword, rfl⟩
  split
  next hword => exact .inr (.inl ⟨hword, rfl⟩)
  split
  next => exact .inr (.inr (.inr rfl))
  next i tail hindex =>
    obtain ⟨digits, hdigits, hs⟩ := index?_eq_some_iff.1 hindex
    exact .inr (.inr (.inl ⟨digits, tail, i, hdigits, hs⟩))

/-- A name is about what it spells, and about nothing else. -/
theorem ofName_eq_ok_iff {name : String} {h : Heading} (hh : h ≠ .other) :
    ofName name = .ok h ↔ Spelled name.toList h := by
  constructor
  · intro hname
    rcases ofName_cases name with ⟨hword, hs⟩ | ⟨hword, hs⟩ | ⟨digits, tail, i, hdigits, hs⟩ | hs
    · cases hs.symm.trans hname
      exact .dummyUsage hword
    · cases hs.symm.trans hname
      exact .commissioning hword
    · rw [ofName_of_index hdigits hs] at hname
      rw [hs]
      rcases ofTail_cases i tail with ⟨rfl, htail⟩ | ⟨rfl, htail⟩ |
        ⟨word, rest, n, hword, hn, rfl⟩ | htail
      · cases htail.symm.trans hname
        rw [List.append_nil]
        exact .object hdigits
      · cases htail.symm.trans hname
        exact .nameList hdigits
      · rw [ofTail_of_announces hword hn] at hname
        split at hname
        next hlt =>
          cases hname
          refine .member hdigits hword ?_
          have hsize : n < UInt8.size := hlt
          rw [hn, UInt8.toNat_ofNat_of_lt' hsize]
        next => cases hname
      · cases htail.symm.trans hname
        exact absurd rfl hh
    · cases hs.symm.trans hname
      exact absurd rfl hh
  · intro hspelled
    generalize hs : name.toList = s at hspelled
    cases hspelled with
    | object index =>
        rw [← List.append_nil s] at hs
        exact ofName_of_index index hs
    | nameList index => exact ofName_of_index index hs
    | @member digits word rest i k index announced subindex =>
        rw [ofName_of_index index hs, ofTail_of_announces announced subindex, if_pos k.toNat_lt,
          UInt8.ofNat_toNat]
    | dummyUsage word =>
        subst hs
        exact if_pos word
    | commissioning word =>
        subst hs
        have hother : Text.sameFolded name.toList "DummyUsage".toList = false := by
          have hlower := (Text.sameFolded_iff _ _).1 word
          rw [Text.sameFolded, hlower]
          rfl
        unfold ofName
        dsimp only
        rw [hother]
        exact if_pos word

/-- A name is refused exactly if it spells a subindex of more than eight bits. -/
theorem ofName_eq_error_iff {name : String} {how : Malformation} :
    ofName name = .error how ↔ how = .subindexTooLarge ∧ Oversized name.toList := by
  constructor
  · intro hname
    rcases ofName_cases name with ⟨-, hs⟩ | ⟨-, hs⟩ | ⟨digits, tail, i, hdigits, hs⟩ | hs
    · cases hs.symm.trans hname
    · cases hs.symm.trans hname
    · rw [ofName_of_index hdigits hs] at hname
      rcases ofTail_cases i tail with ⟨-, htail⟩ | ⟨-, htail⟩ |
        ⟨word, rest, n, hword, hn, rfl⟩ | htail
      · cases htail.symm.trans hname
      · cases htail.symm.trans hname
      · rw [ofTail_of_announces hword hn] at hname
        split at hname
        · cases hname
        next hlt =>
          cases hname
          exact ⟨rfl, digits, word, rest, i, n, hdigits, hword, hs, hn, by omega⟩
      · cases htail.symm.trans hname
    · cases hs.symm.trans hname
  · rintro ⟨rfl, digits, word, rest, i, n, hdigits, hword, hs, hn, hlt⟩
    rw [ofName_of_index hdigits hs, ofTail_of_announces hword hn, if_neg (by omega)]

end Heading

end DataSheet
