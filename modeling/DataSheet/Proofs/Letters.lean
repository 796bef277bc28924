/-
**Blanks and letter case.**

Reading a data sheet looks through the blanks around its pieces and through the case of the letters
in its keys.  This module says how trimming treats blanks at the ends of a text, and that the two
cases of a letter are the same to everything that looks through case.

Main definitions:

* `Text.Blank` — a text of blanks.

Main results:

* `Text.trim_append_blank`, `Text.trim_blank_append` — blanks at either end have no meaning;
* `Text.blank_of_trim_eq_nil`, `Text.trim_of_not_isBlank` — texts with nothing but blanks, and texts
  without blanks;
* `Text.trim_append_cons` — trimming a text around a character that is not blank;
* `Text.toNat_toUpper`, `Text.toNat_toLower` — the code of a letter in the other case;
* `Text.trim_lower` — trimming does not look at the case of letters.
-/

import DataSheet.Text.Blank
import DataSheet.Text.Case
import Mathlib.Data.List.DropRight

set_option relaxedAutoImplicit false
set_option autoImplicit false

namespace DataSheet.Text

/-! ### Blanks at the ends -/

/-- A text of blanks. -/
def Blank (s : List Char) : Prop := ∀ c ∈ s, isBlank c

instance (s : List Char) : Decidable (Blank s) := List.decidableBAll _ s

section Trim

variable {s b : List Char}

theorem dropWhile_blank_append (hb : Blank b) (s : List Char) :
    (b ++ s).dropWhile isBlank = s.dropWhile isBlank :=
  List.dropWhile_append_of_pos hb

theorem trimEnd_append_blank (s : List Char) (hb : Blank b) : trimEnd (s ++ b) = trimEnd s := by
  unfold trimEnd
  rw [List.reverse_append, dropWhile_blank_append fun c hc => hb c (List.mem_reverse.1 hc)]

theorem trim_blank_append (hb : Blank b) (s : List Char) : trim (b ++ s) = trim s := by
  unfold trim
  rw [dropWhile_blank_append hb]

theorem trim_append_blank (s : List Char) (hb : Blank b) : trim (s ++ b) = trim s := by
  unfold trim
  rw [List.dropWhile_append]
  split
  next h =>
    -- nothing but blanks all the way
    rw [List.isEmpty_iff.1 h, List.dropWhile_eq_nil_iff.2 hb]
  next => exact trimEnd_append_blank _ hb

theorem trim_dropWhile (s : List Char) : trim (s.dropWhile isBlank) = trim s := by
  unfold trim
  rw [List.dropWhile_idempotent]

/-- What trimming takes from the end of a text is blank. -/
theorem exists_trimEnd_append (s : List Char) : ∃ b, Blank b ∧ s = trimEnd s ++ b := by
  refine ⟨s.rtakeWhile isBlank, fun c hc => List.mem_rtakeWhile_imp hc, ?_⟩
  exact (List.rdropWhile_append_rtakeWhile (p := isBlank) (l := s)).symm

theorem trim_trimEnd (s : List Char) : trim (trimEnd s) = trim s := by
  obtain ⟨b, hb, hs⟩ := exists_trimEnd_append s
  conv_rhs => rw [hs, trim_append_blank _ hb]

/-- Trimming takes all of a text only if there is nothing but blanks. -/
theorem blank_of_trim_eq_nil (h : trim s = []) : Blank s := by
  obtain ⟨b, hb, hrest⟩ := exists_trimEnd_append (s.dropWhile isBlank)
  change _ = trim s ++ b at hrest
  rw [h, List.nil_append] at hrest
  intro c hc
  rw [← List.takeWhile_append_dropWhile (p := isBlank) (l := s), hrest] at hc
  rcases List.mem_append.1 hc with hc | hc
  · exact List.mem_takeWhile_imp hc
  · exact hb c hc

/-- Trimming takes nothing from a text without blanks. -/
theorem trim_of_not_isBlank (h : ∀ c ∈ s, isBlank c = false) : trim s = s := by
  have hall : ∀ l : List Char, (∀ c ∈ l, isBlank c = false) → l.dropWhile isBlank = l := by
    intro l hl
    cases l with
    | nil => rfl
    | cons c l => exact List.dropWhile_cons_of_neg (by simp [hl c List.mem_cons_self])
  unfold trim trimEnd
  rw [hall _ h, hall _ fun c hc => h c (List.mem_reverse.1 hc), List.reverse_reverse]

/-- A text is trimmed on either side of a character that is not blank. -/
theorem trim_append_cons (s t : List Char) {c : Char} (hc : isBlank c = false) :
    trim (s ++ c :: t) = s.dropWhile isBlank ++ c :: trimEnd t := by
  have hfront : (s ++ c :: t).dropWhile isBlank = s.dropWhile isBlank ++ c :: t := by
    rw [List.dropWhile_append]
    split
    next h => rw [List.isEmpty_iff.1 h, List.dropWhile_cons_of_neg (by simp [hc]), List.nil_append]
    next => rfl
  have hback : ∀ u, (u ++ c :: t).reverse.dropWhile isBlank =
      t.reverse.dropWhile isBlank ++ c :: u.reverse := by
    intro u
    rw [List.reverse_append, List.reverse_cons, List.append_assoc, List.dropWhile_append]
    split
    next h =>
      rw [List.isEmpty_iff.1 h, List.singleton_append,
        List.dropWhile_cons_of_neg (by simp [hc]), List.nil_append]
    next => rfl
  unfold trim
  rw [hfront]
  unfold trimEnd
  rw [hback, List.reverse_append, List.reverse_cons, List.reverse_reverse, List.append_assoc]
  rfl

end Trim

/-! ### Letters in the other case -/

/-- The code of a letter in upper case. -/
theorem toNat_toUpper (c : Char) :
    c.toUpper.toNat = if 97 ≤ c.toNat ∧ c.toNat ≤ 122 then c.toNat - 32 else c.toNat := by
  have hlower : ('a'.val ≤ c.val ∧ c.val ≤ 'z'.val) ↔ 97 ≤ c.toNat ∧ c.toNat ≤ 122 := by
    rw [UInt32.le_iff_toNat_le, UInt32.le_iff_toNat_le]
    rfl
  unfold Char.toUpper
  split
  next h =>
    obtain ⟨hl, hu⟩ := hlower.1 h
    rw [if_pos ⟨hl, hu⟩]
    have hsum : (c.val + ('A'.val - 'a'.val)).toNat = (c.toNat + 4294967264) % 4294967296 :=
      UInt32.toNat_add _ _
    exact hsum.trans (by omega)
  next h => rw [if_neg (mt hlower.2 h)]

/-- The code of a letter in lower case. -/
theorem toNat_toLower (c : Char) :
    c.toLower.toNat = if 65 ≤ c.toNat ∧ c.toNat ≤ 90 then c.toNat + 32 else c.toNat := by
  have hupper : ('A'.val ≤ c.val ∧ c.val ≤ 'Z'.val) ↔ 65 ≤ c.toNat ∧ c.toNat ≤ 90 := by
    rw [UInt32.le_iff_toNat_le, UInt32.le_iff_toNat_le]
    rfl
  unfold Char.toLower
  split
  next h =>
    obtain ⟨hl, hu⟩ := hupper.1 h
    rw [if_pos ⟨hl, hu⟩]
    have hsum : (c.val + ('a'.val - 'A'.val)).toNat = (c.toNat + 32) % 4294967296 :=
      UInt32.toNat_add _ _
    exact hsum.trans (by omega)
  next h => rw [if_neg (mt hupper.2 h)]

theorem toUpper_toLower (c : Char) : c.toLower.toUpper = c.toUpper := by
  rw [← Char.toNat_inj, toNat_toUpper, toNat_toUpper, toNat_toLower]
  grind

@[simp] theorem isBlank_toLower (c : Char) : isBlank c.toLower = isBlank c := by
  unfold isBlank
  rw [toNat_toLower]
  grind

/-- A character outside the two alphabets has no other case. -/
theorem eq_of_toLower_eq {c d : Char}
    (hd : d.toNat < 65 ∨ 90 < d.toNat ∧ d.toNat < 97 ∨ 122 < d.toNat)
    (h : c.toLower = d.toLower) : c = d := by
  rw [← Char.toNat_inj, toNat_toLower, toNat_toLower] at h
  rw [← Char.toNat_inj]
  grind

theorem upper_lower (s : List Char) : upper (lower s) = upper s := by
  unfold upper lower
  rw [List.map_map]
  exact List.map_congr_left fun c _ => toUpper_toLower c

theorem dropWhile_lower (s : List Char) :
    (lower s).dropWhile isBlank = lower (s.dropWhile isBlank) := by
  have hblank : isBlank ∘ Char.toLower = isBlank := funext isBlank_toLower
  unfold lower
  rw [List.dropWhile_map, hblank]

/-- Trimming does not look at the case of letters. -/
theorem trim_lower (s : List Char) : trim (lower s) = lower (trim s) := by
  unfold trim trimEnd
  rw [dropWhile_lower]
  have hreverse : ∀ t, (lower t).reverse = lower t.reverse := fun t => List.map_reverse.symm
  rw [hreverse, dropWhile_lower, hreverse]

end DataSheet.Text
