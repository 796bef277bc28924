/-
**What every section name tells.**

Four hexadecimal digits are an index.  A word and more digits behind them lead to a member, another
word to a list of names, and two words stand for themselves in any letter case.  This module writes
this grammar down, digits with the value that their positions give them, and shows that headings
follow it: every name has at most one form, and a name without one is about nothing.

Main definitions:

* `Heading.Hexadecimal` — digits of either letter case with their value;
* `Heading.Form` — the forms of names, each with what it tells.

Main results:

* `Text.number?_sixteen_eq_some_iff` — hexadecimal digits have the value that positions give them;
* `Heading.form_ok_iff`, `Heading.form_error_iff` — the forms are the spellings of headings;
* `Heading.Form.utf8Size` — names with a form consist of characters of one byte;
* `names_tell_headings` — **a name tells exactly what its form does**, and without a form nothing.
-/

import DataSheet.Build.Dictionary
import DataSheet.Proofs.Headings
import DataSheet.Proofs.Integers

set_option relaxedAutoImplicit false
set_option autoImplicit false

namespace DataSheet

/-! ### Digits of either letter case -/

namespace Text

/-- The two cases of a letter are the same digit. -/
theorem digit?_toUpper (c : Char) : digit? 16 c.toUpper = digit? 16 c := by
  have hle : ∀ a b : Char, a ≤ b ↔ a.toNat ≤ b.toNat := fun _ _ => Iff.rfl
  simp only [digit?, hle, toNat_toUpper]
  grind

theorem continueNumber?_upper (n : Nat) (s : List Char) :
    continueNumber? 16 n (upper s) = continueNumber? 16 n s := by
  induction s generalizing n with
  | nil => rfl
  | cons c s ih =>
      rw [upper, List.map_cons, continueNumber?, continueNumber?, digit?_toUpper]
      cases digit? 16 c with
      | none => rfl
      | some d => exact ih (16 * n + d)

/-- **Hexadecimal digits have the value that positions give them**, whatever their letter case. -/
theorem number?_sixteen_eq_some_iff {s : List Char} {n : Nat} :
    number? 16 s = some n ↔ Numeral 16 (upper s) n := by
  have hupper : number? 16 s = number? 16 (upper s) := by
    simp only [number?, continueNumber?_upper]
    simp only [upper, List.map_eq_nil_iff]
  rw [hupper]
  exact number?_eq_some_iff le_rfl fun c hc => toUpper_of_mem_upper hc

/-- A digit takes one byte. -/
theorem utf8Size_of_isDigit {base : Nat} {c : Char} (h : isDigit base c) : c.utf8Size = 1 := by
  obtain ⟨d, hd⟩ := Option.isSome_iff_exists.1 h
  have hranges := ranges_of_digit? hd
  refine Char.utf8Size_eq_one_iff.2 (UInt32.le_iff_toNat_le.2 ?_)
  change c.toNat ≤ 127
  omega

/-- A letter takes as many bytes as it does in lower case. -/
theorem utf8Size_of_toLower {c : Char} (h : c.toLower.utf8Size = 1) : c.utf8Size = 1 := by
  have hle : ∀ d : Char, d.utf8Size = 1 ↔ d.toNat ≤ 127 := fun d =>
    Char.utf8Size_eq_one_iff.trans UInt32.le_iff_toNat_le
  rw [hle, toNat_toLower] at h
  rw [hle]
  split at h <;> omega

end Text

namespace Heading

/-! ### The grammar of names -/

/-- One or more hexadecimal digits, of either letter case, that write a number. -/
def Hexadecimal (s : List Char) (n : Nat) : Prop := Text.Numeral 16 (Text.upper s) n

/-- The forms of names, each with what it tells. -/
inductive Form : List Char → Except Malformation Heading → Prop
  | object {front : List Char} {i : UInt16} (four : front.length = 4)
      (index : Hexadecimal front i.toNat) : Form front (.ok (.object i))
  | member {front word rest : List Char} {i : UInt16} {k : UInt8} (four : front.length = 4)
      (index : Hexadecimal front i.toNat) (announced : word = "sub".toList ∨ word = "Sub".toList)
      (subindex : Hexadecimal rest k.toNat) : Form (front ++ (word ++ rest)) (.ok (.member i k))
  /-- The subindex has more than eight bits. -/
  | oversized {front word rest : List Char} {i : UInt16} {n : Nat} (four : front.length = 4)
      (index : Hexadecimal front i.toNat) (announced : word = "sub".toList ∨ word = "Sub".toList)
      (subindex : Hexadecimal rest n) (above : 0xFF < n) :
      Form (front ++ (word ++ rest)) (.error .subindexTooLarge)
  | nameList {front : List Char} {i : UInt16} (four : front.length = 4)
      (index : Hexadecimal front i.toNat) : Form (front ++ "Name".toList) (.ok (.nameList i))
  | dummyUsage {s : List Char} (word : Text.lower s = Text.lower "DummyUsage".toList) :
      Form s (.ok .dummyUsage)
  | commissioning {s : List Char}
      (word : Text.lower s = Text.lower "DeviceComissioning".toList) : Form s (.ok .commissioning)

theorem index_iff {front : List Char} {i : UInt16} :
    Index front i ↔ front.length = 4 ∧ Hexadecimal front i.toNat :=
  and_congr_right fun _ => Text.number?_sixteen_eq_some_iff

/-- The forms of names that tell a heading are its spellings. -/
theorem form_ok_iff {s : List Char} {h : Heading} : Form s (.ok h) ↔ Spelled s h := by
  constructor
  · intro hform
    cases hform with
    | object four index => exact .object (index_iff.2 ⟨four, index⟩)
    | member four index announced subindex =>
        exact .member (index_iff.2 ⟨four, index⟩) announced
          (Text.number?_sixteen_eq_some_iff.2 subindex)
    | nameList four index => exact .nameList (index_iff.2 ⟨four, index⟩)
    | dummyUsage word => exact .dummyUsage ((Text.sameFolded_iff _ _).2 word)
    | commissioning word => exact .commissioning ((Text.sameFolded_iff _ _).2 word)
  · intro hspelled
    cases hspelled with
    | object index =>
        obtain ⟨four, index⟩ := index_iff.1 index
        exact .object four index
    | member index announced subindex =>
        obtain ⟨four, index⟩ := index_iff.1 index
        exact .member four index announced (Text.number?_sixteen_eq_some_iff.1 subindex)
    | nameList index =>
        obtain ⟨four, index⟩ := index_iff.1 index
        exact .nameList four index
    | dummyUsage word => exact .dummyUsage ((Text.sameFolded_iff _ _).1 word)
    | commissioning word => exact .commissioning ((Text.sameFolded_iff _ _).1 word)

/-- A name has the form of a malformed one exactly if its subindex is too large. -/
theorem form_error_iff {s : List Char} {how : Malformation} :
    Form s (.error how) ↔ how = .subindexTooLarge ∧ Oversized s := by
  constructor
  · intro hform
    cases hform with
    | @oversized front word rest i n four index announced subindex above =>
        exact ⟨rfl, front, word, rest, i, n, index_iff.2 ⟨four, index⟩, announced, rfl,
          Text.number?_sixteen_eq_some_iff.2 subindex, above⟩
  · rintro ⟨rfl, front, word, rest, i, n, index, announced, rfl, subindex, above⟩
    obtain ⟨four, index⟩ := index_iff.1 index
    exact .oversized four index announced (Text.number?_sixteen_eq_some_iff.1 subindex) above

theorem Form.ne_other {s : List Char} {v : Except Malformation Heading} (h : Form s v) :
    v ≠ .ok .other := by
  cases h <;> nofun

/-- A name tells what its form does. -/
theorem ofName_eq_iff {name : String} {v : Except Malformation Heading} (hv : v ≠ .ok .other) :
    ofName name = v ↔ Form name.toList v := by
  cases v with
  | ok h => rw [ofName_eq_ok_iff fun hh => hv (congrArg _ hh), form_ok_iff]
  | error how => rw [ofName_eq_error_iff, form_error_iff]

/-- A name without a form tells nothing. -/
theorem ofName_eq_other_iff {name : String} :
    ofName name = .ok .other ↔ ∀ v, ¬ Form name.toList v := by
  constructor
  · intro hname v hform
    exact hform.ne_other (((ofName_eq_iff hform.ne_other).2 hform).symm.trans hname)
  · intro hnone
    by_contra hv
    exact hnone _ ((ofName_eq_iff hv).1 rfl)

/-! ### The characters of names with a form -/

theorem utf8Size_of_all {s : List Char} (h : s.all fun c => c.utf8Size == 1) :
    ∀ c ∈ s, c.utf8Size = 1 := fun c hc => beq_iff_eq.1 (List.all_eq_true.1 h c hc)

theorem Hexadecimal.utf8Size {s : List Char} {n : Nat} (h : Hexadecimal s n) :
    ∀ c ∈ s, c.utf8Size = 1 := fun c hc =>
  Text.utf8Size_of_isDigit (Text.isDigit_of_number? (Text.number?_sixteen_eq_some_iff.2 h) c hc)

/-- A word takes as many bytes in any letter case. -/
theorem utf8Size_of_lower_eq {s word : List Char} (h : Text.lower s = Text.lower word)
    (hword : ∀ c ∈ Text.lower word, c.utf8Size = 1) : ∀ c ∈ s, c.utf8Size = 1 := by
  intro c hc
  refine Text.utf8Size_of_toLower (hword _ ?_)
  rw [← h]
  exact List.mem_map_of_mem hc

/-- **A name with a form consists of characters of one byte.** -/
theorem Form.utf8Size {s : List Char} {v : Except Malformation Heading} (h : Form s v) :
    ∀ c ∈ s, c.utf8Size = 1 := by
  have hword : ∀ {word}, (word = "sub".toList ∨ word = "Sub".toList) →
      ∀ c ∈ word, c.utf8Size = 1 := by
    rintro word (rfl | rfl) <;> exact utf8Size_of_all (by decide)
  have happend : ∀ {s t : List Char}, (∀ c ∈ s, c.utf8Size = 1) → (∀ c ∈ t, c.utf8Size = 1) →
      ∀ c ∈ s ++ t, c.utf8Size = 1 := fun hs ht c hc =>
    (List.mem_append.1 hc).elim (hs c) (ht c)
  cases h with
  | object four index => exact index.utf8Size
  | member four index announced subindex | oversized four index announced subindex above =>
      exact happend index.utf8Size (happend (hword announced) subindex.utf8Size)
  | nameList four index => exact happend index.utf8Size (utf8Size_of_all (by decide))
  | dummyUsage word => exact utf8Size_of_lower_eq word (utf8Size_of_all (by decide))
  | commissioning word => exact utf8Size_of_lower_eq word (utf8Size_of_all (by decide))

end Heading

/-! ### Sections and their headings -/

open Heading (Form)

theorem Section.headed_eq_ok_iff {s : Section} {h : Heading} :
    s.headed = .ok (s, h) ↔ Heading.ofName s.name = .ok h := by
  unfold headed
  cases Heading.ofName s.name <;> simp

theorem Section.headed_eq_error_iff {s : Section} {f : Fault} :
    s.headed = .error f ↔
      ∃ how, Heading.ofName s.name = .error how ∧ f = .malformed s.line how := by
  unfold headed
  cases Heading.ofName s.name <;> simp [eq_comm]

/-- **A name tells exactly what its form does.**  A section is refused, at the line of its header,
exactly if its name has the form of a malformed one.  It is about nothing exactly if its name has no
form, as every name with a character of several bytes.  No name has two forms. -/
theorem names_tell_headings (s : Section) :
    (∀ h, h ≠ .other → (s.headed = .ok (s, h) ↔ Form s.name.toList (.ok h))) ∧
      (∀ f, s.headed = .error f ↔
        f = .malformed s.line .subindexTooLarge ∧
          Form s.name.toList (.error .subindexTooLarge)) ∧
      (s.headed = .ok (s, .other) ↔ ∀ v, ¬ Form s.name.toList v) ∧
      (∀ v v', Form s.name.toList v → Form s.name.toList v' → v = v') ∧
      ((∃ c ∈ s.name.toList, 1 < c.utf8Size) → s.headed = .ok (s, .other)) := by
  have hother : s.headed = .ok (s, .other) ↔ ∀ v, ¬ Form s.name.toList v :=
    Section.headed_eq_ok_iff.trans Heading.ofName_eq_other_iff
  have hrefused : Heading.ofName s.name = .error .subindexTooLarge ↔
      Form s.name.toList (.error .subindexTooLarge) := Heading.ofName_eq_iff nofun
  refine ⟨fun h hh => ?_, fun f => ?_, hother, fun v v' hv hv' => ?_, ?_⟩
  · rw [Section.headed_eq_ok_iff, Heading.ofName_eq_iff]
    exact fun hv => hh (Except.ok.inj hv)
  · rw [Section.headed_eq_error_iff]
    constructor
    · rintro ⟨how, hname, rfl⟩
      obtain ⟨rfl, -⟩ := Heading.ofName_eq_error_iff.1 hname
      exact ⟨rfl, hrefused.1 hname⟩
    · rintro ⟨rfl, hform⟩
      exact ⟨_, hrefused.2 hform, rfl⟩
  · -- both are what the name tells
    have hname := (Heading.ofName_eq_iff hv.ne_other).2 hv
    exact hname.symm.trans ((Heading.ofName_eq_iff hv'.ne_other).2 hv')
  · rintro ⟨c, hc, hsize⟩
    refine hother.2 fun v hv => ?_
    have := hv.utf8Size c hc
    omega

end DataSheet
