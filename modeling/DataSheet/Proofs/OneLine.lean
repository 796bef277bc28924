/-
**Names and defaults stay on one line.**

Names, paths and defaults are free text, and a line feed in one of them would break the line on
which it is written.  None gets there: names become identifiers, paths are made of identifiers, and
defaults are written with digits and escapes.

Main definitions:

* `OneLine` — a text without a line feed.

Main results:

* `Transcript.linesOf_textOfLines` — a text of lines has these lines;
* `Identifier.oneLine_ofName`, `Identifier.oneLine_of_isPath` — identifiers and paths;
* `Text.Quoted.oneLine_encode`, `Binary64.Layout.oneLine_write` — quoted text and numbers;
* `defaultLiteral_oneLine` — **a default is written on one line**.
-/

import DataSheet.Proofs.Decimals
import DataSheet.Proofs.Quoted
import DataSheet.Proofs.Transcript

set_option relaxedAutoImplicit false
set_option autoImplicit false

namespace DataSheet

/-! ### Lines -/

/-- The text has no line feed. -/
def OneLine (s : List Char) : Prop := '\n' ∉ s

instance (s : List Char) : Decidable (OneLine s) := inferInstanceAs (Decidable ('\n' ∉ s))

theorem OneLine.of_subset {s t : List Char} (ht : OneLine t) (h : s ⊆ t) : OneLine s := fun hmem =>
  ht (h hmem)

theorem OneLine.append {s t : List Char} (hs : OneLine s) (ht : OneLine t) : OneLine (s ++ t) := by
  intro hmem
  rcases List.mem_append.1 hmem with hmem | hmem
  · exact hs hmem
  · exact ht hmem

/-- A text of lines has these lines, and nothing behind the last line feed. -/
theorem Transcript.linesOf_textOfLines {lines : List String}
    (h : ∀ l ∈ lines, OneLine l.toList) :
    linesOf (textOfLines lines) = lines.map String.toList ++ [[]] := by
  unfold linesOf textOfLines
  rw [String.toList_ofList]
  induction lines with
  | nil => rfl
  | cons l lines ih =>
      have hl : ∀ c ∈ l.toList, (c == '\n') = false := by
        intro c hc
        rw [beq_eq_false_iff_ne]
        rintro rfl
        exact h l List.mem_cons_self hc
      rw [List.flatMap_cons, List.append_assoc, List.singleton_append, List.splitOn_eq_splitOnP,
        List.splitOnP_append_cons_of_forall_mem hl '\n' rfl, ← List.splitOn_eq_splitOnP,
        ih fun l' hl' => h l' (List.mem_cons_of_mem l hl')]
      rfl

/-! ### Identifiers -/

namespace Identifier

theorem not_isPart_lineFeed : isPart '\n' = false := by decide

theorem oneLine_of_isPart {s : List Char} (h : ∀ c ∈ s, isPart c) : OneLine s := by
  intro hmem
  have := h '\n' hmem
  rw [not_isPart_lineFeed] at this
  cases this

theorem isPart_of_mem_normal {s : List Char} {c : Char} (h : c ∈ normal s) : isPart c := by
  obtain ⟨d, -, hc⟩ := List.mem_flatMap.1 h
  unfold keep at hc
  split at hc
  · cases hc
  · split at hc
    next hd =>
      rw [List.mem_singleton.1 hc]
      exact hd
    next =>
      rw [List.mem_singleton.1 hc]
      decide

theorem oneLine_normal (s : List Char) : OneLine (normal s) :=
  oneLine_of_isPart fun _ hc => isPart_of_mem_normal hc

/-- An identifier stays on one line, whatever the name. -/
theorem oneLine_ofName (start name : String) : OneLine (ofName start name).toList := by
  have hnormal := (oneLine_normal start.toList).append
    (oneLine_normal (Text.upper name.toList))
  unfold ofName
  rw [String.toList_ofList]
  revert hnormal
  generalize normal start.toList ++ normal (Text.upper name.toList) = s
  intro hs
  have hguard : OneLine (guard s) := by
    cases s with
    | nil => exact hs
    | cons c s =>
        rw [guard]
        split
        · exact OneLine.append (s := ['_']) (by decide) hs
        · exact hs
  unfold complete
  split
  · decide
  · exact hguard

theorem oneLine_of_isPlain {s : List Char} (h : isPlain s) : OneLine s := by
  cases s with
  | nil => cases h
  | cons c s =>
      simp only [isPlain, Bool.and_eq_true, List.all_eq_true] at h
      refine oneLine_of_isPart fun d hd => ?_
      rcases List.mem_cons.1 hd with rfl | hd
      · have hfirst := h.1.1
        unfold isPart Char.isAlphanum
        simp only [Bool.or_eq_true] at hfirst ⊢
        rcases hfirst with hfirst | hfirst
        · exact .inl (.inl hfirst)
        · exact .inr hfirst
      · exact h.1.2 d hd

theorem segments_ne_nil (s : List Char) : segments s ≠ [] := by
  induction s using segments.induct with
  | case1 => exact List.cons_ne_nil _ _
  | case2 s ih => exact List.cons_ne_nil _ _
  | case3 c s hne ih =>
      rw [segments.eq_3 c s hne]
      cases hs : segments s with
      | nil => exact absurd hs ih
      | cons t ts => exact List.cons_ne_nil _ _

/-- A character of a path is a colon or stands in a segment. -/
theorem mem_segments {c : Char} {s : List Char} (h : c ∈ s) :
    c = ':' ∨ ∃ t ∈ segments s, c ∈ t := by
  induction s using segments.induct with
  | case1 => cases h
  | case2 s ih =>
      rw [List.mem_cons, List.mem_cons] at h
      rcases h with h | h | h
      · exact .inl h
      · exact .inl h
      · rcases ih h with hc | ⟨t, ht, hc⟩
        · exact .inl hc
        · exact .inr ⟨t, List.mem_cons_of_mem [] ht, hc⟩
  | case3 d s hne ih =>
      rw [segments.eq_3 d s hne]
      cases hs : segments s with
      | nil => exact absurd hs (segments_ne_nil s)
      | cons t ts =>
          rw [hs] at ih
          rw [List.modifyHead_cons]
          rcases List.mem_cons.1 h with rfl | h
          · exact .inr ⟨_, List.mem_cons_self, List.mem_cons_self⟩
          · rcases ih h with hc | ⟨u, hu, hc⟩
            · exact .inl hc
            · rcases List.mem_cons.1 hu with rfl | hu
              · exact .inr ⟨_, List.mem_cons_self, List.mem_cons_of_mem d hc⟩
              · exact .inr ⟨u, List.mem_cons_of_mem _ hu, hc⟩

theorem oneLine_of_isPath {s : String} (h : isPath s) : OneLine s.toList := by
  intro hmem
  rcases mem_segments hmem with hcolon | ⟨t, ht, hmem⟩
  · cases hcolon
  · unfold isPath at h
    rw [List.all_eq_true] at h
    have hsegment := h t ht
    unfold isSegment at hsegment
    rw [Bool.and_eq_true] at hsegment
    exact oneLine_of_isPlain hsegment.1 hmem

theorem oneLine_of_isFree {s : String} (h : isFree s) : OneLine s.toList := by
  unfold isFree at h
  rw [Bool.and_eq_true] at h
  exact oneLine_of_isPlain h.1

end Identifier

/-! ### Defaults -/

/-- A run of digits stays on one line. -/
theorem oneLine_of_number? {base n : Nat} {s : List Char} (h : Text.number? base s = some n) :
    OneLine s := by
  intro hmem
  cases Text.not_isBlank_of_isDigit (Text.isDigit_of_number? h '\n' hmem)

theorem oneLine_upperHex (width n : Nat) : OneLine (Text.upperHex width n).toList :=
  oneLine_of_number? (Text.number?_upperHex width n)

theorem oneLine_lowerHex (width n : Nat) : OneLine (Text.lowerHex width n).toList :=
  oneLine_of_number? (Text.number?_lowerHex width n)

/-- A text in quotes stays on one line: no control stands between them. -/
theorem Text.Quoted.oneLine_encode (s : List Char) : OneLine (encode s) := by
  have hbody : OneLine (body s) := by
    intro hmem
    cases (inside_body s).not_isControl '\n' hmem
  exact OneLine.append (s := ['"']) (by decide) (hbody.append (by decide))

/-- A number stays on one line, whatever the layout. -/
theorem Binary64.Layout.oneLine_write (l : Layout) (x : Binary64) : OneLine (l.write x) := by
  cases x with
  | nan => exact (by decide : OneLine ['N', 'a', 'N'])
  | infinite negative =>
      have hsign : OneLine (if negative then ['-'] else []) := by
        cases negative <;> decide
      exact hsign.append (by decide)
  | finite negative units =>
      intro hmem
      rcases numeric_write l negative units '\n' hmem with h | h <;> cases h

/-- A value stays on one line. -/
theorem Value.oneLine_expression (t : DataType) (x : Value) : OneLine (x.expression t).toList := by
  have hname : OneLine t.name.toList := by
    cases t <;> decide
  cases x with
  | boolean b =>
      simp only [expression, String.toList_append]
      refine ((hname.append (by decide)).append ?_).append (by decide)
      cases b <;> decide
  | signed n =>
      simp only [expression, String.toList_append]
      refine ((((hname.append (by decide)).append ?_).append (by decide)).append
        (oneLine_lowerHex 1 _)).append (by decide)
      split <;> decide
  | unsigned n =>
      simp only [expression, String.toList_append]
      exact ((hname.append (by decide)).append (oneLine_lowerHex 1 _)).append (by decide)
  | float x =>
      simp only [expression, String.toList_append, Binary64.text, String.toList_ofList]
      exact (OneLine.append (by decide) (Binary64.Layout.oneLine_write _ x)).append (by decide)
  | text s =>
      simp only [expression, String.toList_append, String.toList_ofList]
      exact (OneLine.append (by decide) (Text.Quoted.oneLine_encode _)).append (by decide)

/-- A default is written on one line. -/
theorem defaultLiteral_oneLine {v : Variable} {literal : String}
    (h : defaultLiteral v = .ok literal) : OneLine literal.toList := by
  unfold defaultLiteral at h
  split at h
  · cases h
  · split at h
    · cases h
      decide
    · split at h
      · cases h
        decide
      · cases h
        simp only [String.toList_append]
        exact (OneLine.append (by decide) (Value.oneLine_expression _ _)).append (by decide)

end DataSheet
