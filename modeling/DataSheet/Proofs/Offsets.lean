/-
**Texts as bytes.**

A text is kept as its bytes in UTF-8, and places in it are counted in bytes.  A text can be cut at a
place only if a character ends there.  This module says which places those are, where characters are
found, and that bytes of ASCII characters tell these characters.

Main definitions:

* `Text.utf8`, `Text.size` — the bytes of a text, and their number;
* `Text.cut?` — the parts of a text before and from a place, none if no character ends there;
* `Text.offset?`, `Text.lastOffset?` — the places of the first and of the last character of a class.

Main results:

* `Text.cut?_eq_some_iff` — **a text can be cut exactly behind its fronts**;
* `Text.offset?_append`, `Text.lastOffset?_append` — a place found is the size of what is before it;
* `Text.size_lower` — the letter case of a text does not change its size;
* `Text.head?_utf8_eq_iff`, `Text.all_utf8_iff` — bytes of ASCII characters tell these characters.
-/

import DataSheet.Proofs.Letters
import DataSheet.Text.Digits

set_option relaxedAutoImplicit false
set_option autoImplicit false

namespace DataSheet.Text

/-! ### Bytes and sizes -/

/-- The bytes of a text in UTF-8. -/
def utf8 (s : List Char) : List UInt8 := s.flatMap String.utf8EncodeChar

/-- The number of bytes of a text. -/
def size (s : List Char) : Nat := (utf8 s).length

@[simp] theorem size_nil : size [] = 0 := rfl

@[simp] theorem size_cons (c : Char) (s : List Char) : size (c :: s) = c.utf8Size + size s := by
  simp [size, utf8]

@[simp] theorem size_append (s t : List Char) : size (s ++ t) = size s + size t := by
  simp [size, utf8]

theorem size_eq_zero_iff {s : List Char} : size s = 0 ↔ s = [] := by
  cases s with
  | nil => simp
  | cons c s =>
      have := c.utf8Size_pos
      simp
      omega

/-- The size of a string is the size of its characters. -/
theorem size_toList (s : String) : size s.toList = s.utf8ByteSize := by
  have hbytes : s.toByteArray.size = size s.toList := by
    rw [← String.utf8Encode_toList]
    simp [List.utf8Encode, size, utf8]
  exact hbytes.symm

/-- A text of characters of one byte has as many bytes as characters. -/
theorem size_eq_length {s : List Char} (h : ∀ c ∈ s, c.utf8Size = 1) : size s = s.length := by
  induction s with
  | nil => rfl
  | cons c s ih =>
      rw [size_cons, List.length_cons, h c List.mem_cons_self,
        ih fun d hd => h d (List.mem_cons_of_mem c hd)]
      exact Nat.add_comm _ _

theorem size_reverse (s : List Char) : size s.reverse = size s := by
  induction s with
  | nil => rfl
  | cons c s ih => simp [ih, Nat.add_comm]

theorem size_le_of_suffix {s t : List Char} (h : s <:+ t) : size s ≤ size t := by
  obtain ⟨front, rfl⟩ := h
  rw [size_append]
  exact Nat.le_add_left _ _

theorem size_trim_le (s : List Char) : size (trim s) ≤ size s := by
  have hend : ∀ t, size (trimEnd t) ≤ size t := fun t => by
    unfold trimEnd
    rw [size_reverse]
    exact (size_le_of_suffix (List.dropWhile_suffix _)).trans_eq (size_reverse t)
  exact (hend _).trans (size_le_of_suffix (List.dropWhile_suffix _))

/-- A character takes as many bytes in lower case. -/
theorem utf8Size_toLower (c : Char) : c.toLower.utf8Size = c.utf8Size := by
  have hone : ∀ d : Char, d.toNat ≤ 127 → d.utf8Size = 1 := fun d hd =>
    Char.utf8Size_eq_one_iff.2 (UInt32.le_iff_toNat_le.2 hd)
  have hlower := toNat_toLower c
  split at hlower
  · rw [hone c (by omega), hone _ (by omega)]
  · rw [Char.toNat_inj.1 hlower]

/-- The letter case of a text does not change its size. -/
theorem size_lower (s : List Char) : size (lower s) = size s := by
  induction s with
  | nil => rfl
  | cons c s ih =>
      rw [lower, List.map_cons, size_cons, size_cons, utf8Size_toLower]
      exact congrArg _ ih

/-! ### Cuts -/

/-- The parts of a text before and from byte `i` on.  There are none if byte `i` is inside of a
character or behind the end. -/
def cut? : Nat → List Char → Option (List Char × List Char)
  | 0, s => some ([], s)
  | _ + 1, [] => none
  | i + 1, c :: s =>
    if c.utf8Size ≤ i + 1 then
      (cut? (i + 1 - c.utf8Size) s).map fun parts => (c :: parts.1, parts.2)
    else none

theorem cut?_zero (s : List Char) : cut? 0 s = some ([], s) := by
  cases s <;> rfl

theorem cut?_append (a b : List Char) : cut? (size a) (a ++ b) = some (a, b) := by
  induction a with
  | nil => exact cut?_zero b
  | cons c a ih =>
      have hc := c.utf8Size_pos
      obtain ⟨n, hn⟩ : ∃ n, c.utf8Size + size a = n + 1 := Nat.exists_eq_add_one.2 (by omega)
      rw [size_cons, hn, List.cons_append, cut?, if_pos (by omega), ← hn,
        Nat.add_sub_cancel_left, ih]
      rfl

/-- **A text can be cut exactly behind its fronts.** -/
theorem cut?_eq_some_iff {i : Nat} {s a b : List Char} :
    cut? i s = some (a, b) ↔ s = a ++ b ∧ size a = i := by
  refine ⟨fun h => ?_, fun ⟨hs, hi⟩ => hs ▸ hi ▸ cut?_append a b⟩
  induction s generalizing i a with
  | nil =>
      cases i with
      | zero =>
          cases h
          exact ⟨rfl, rfl⟩
      | succ i => cases h
  | cons c s ih =>
      cases i with
      | zero =>
          cases h
          exact ⟨rfl, rfl⟩
      | succ i =>
          rw [cut?] at h
          split at h
          next hle =>
            obtain ⟨⟨a', b'⟩, hcut, hparts⟩ := Option.map_eq_some_iff.1 h
            cases hparts
            obtain ⟨rfl, hsize⟩ := ih hcut
            refine ⟨rfl, ?_⟩
            rw [size_cons, hsize]
            omega
          next => cases h

example : cut? 3 "né".toList = some ("né".toList, []) := by decide
example : cut? 2 "né".toList = none := by decide

/-! ### Places of characters -/

/-- The place of the first character of a class. -/
def offset? (p : Char → Bool) : List Char → Option Nat
  | [] => none
  | c :: s => if p c then some 0 else (offset? p s).map (c.utf8Size + ·)

/-- The place of the last character of a class. -/
def lastOffset? (p : Char → Bool) : List Char → Option Nat
  | [] => none
  | c :: s =>
    match lastOffset? p s with
    | some i => some (c.utf8Size + i)
    | none => if p c then some 0 else none

section Places

variable {p : Char → Bool}

theorem offset?_eq_none_iff {s : List Char} : offset? p s = none ↔ ∀ c ∈ s, p c = false := by
  induction s with
  | nil => simp [offset?]
  | cons c s ih =>
      rw [offset?, List.forall_mem_cons, ← ih]
      cases p c <;> simp

/-- The first character of a class stands behind characters outside of it. -/
theorem offset?_append {a : List Char} (ha : ∀ c ∈ a, p c = false) {c : Char} (hc : p c)
    (b : List Char) : offset? p (a ++ c :: b) = some (size a) := by
  induction a with
  | nil => simp [offset?, hc]
  | cons d a ih =>
      rw [List.cons_append, offset?, ha d List.mem_cons_self,
        ih fun e he => ha e (List.mem_cons_of_mem d he), size_cons]
      rfl

theorem lastOffset?_eq_none_iff {s : List Char} :
    lastOffset? p s = none ↔ ∀ c ∈ s, p c = false := by
  induction s with
  | nil => simp [lastOffset?]
  | cons c s ih =>
      rw [lastOffset?, List.forall_mem_cons, ← ih]
      cases lastOffset? p s <;> simp

/-- The last character of a class stands before characters outside of it. -/
theorem lastOffset?_append (a : List Char) {c : Char} (hc : p c) {b : List Char}
    (hb : ∀ d ∈ b, p d = false) : lastOffset? p (a ++ c :: b) = some (size a) := by
  induction a with
  | nil => simp [lastOffset?, lastOffset?_eq_none_iff.2 hb, hc]
  | cons d a ih => rw [List.cons_append, lastOffset?, ih, size_cons]

end Places

/-! ### What bytes tell about characters -/

/-- An ASCII character is its only byte. -/
theorem utf8EncodeChar_of_ascii {c : Char} (hc : c.toNat < 128) :
    String.utf8EncodeChar c = [c.toUInt8] :=
  String.utf8EncodeChar_eq_singleton
    (Char.utf8Size_eq_one_iff.2 (UInt32.le_iff_toNat_le.2 (Nat.le_of_lt_succ hc)))

theorem toNat_toUInt8_of_ascii {c : Char} (hc : c.toNat < 128) : c.toUInt8.toNat = c.toNat :=
  Nat.mod_eq_of_lt (by change c.toNat < 256; omega)

/-- The bytes of other characters are no ASCII characters. -/
theorem le_toNat_of_mem_utf8EncodeChar {c : Char} (hc : ¬ c.toNat < 128) :
    ∀ b ∈ String.utf8EncodeChar c, 128 ≤ b.toNat := by
  have hbyte : ∀ n, 128 ≤ n → n < 256 → 128 ≤ (UInt8.ofNat n).toNat := fun n hn hn' => by
    rwa [UInt8.toNat_ofNat_of_lt' hn']
  have hmany : ¬ c.val.toNat ≤ 0x7f := fun h => hc (Nat.lt_succ_of_le h)
  intro b hb
  simp only [String.utf8EncodeChar, if_neg hmany] at hb
  split at hb
  · rcases List.mem_pair.1 hb with rfl | rfl <;> exact hbyte _ (by omega) (by omega)
  · split at hb
    · simp only [List.mem_cons, List.not_mem_nil, or_false] at hb
      rcases hb with rfl | rfl | rfl <;> exact hbyte _ (by omega) (by omega)
    · simp only [List.mem_cons, List.not_mem_nil, or_false] at hb
      rcases hb with rfl | rfl | rfl | rfl <;> exact hbyte _ (by omega) (by omega)

/-- A byte that is an ASCII character starts a text exactly if that character does. -/
theorem head?_utf8_eq_iff {s : List Char} {d : Char} (hd : d.toNat < 128) :
    (utf8 s).head? = some d.toUInt8 ↔ s.head? = some d := by
  cases s with
  | nil => simp [utf8]
  | cons c s =>
      rw [utf8, List.flatMap_cons, List.head?_cons, Option.some_inj]
      by_cases hc : c.toNat < 128
      · rw [utf8EncodeChar_of_ascii hc, List.singleton_append, List.head?_cons, Option.some_inj,
          ← UInt8.toNat_inj, toNat_toUInt8_of_ascii hc, toNat_toUInt8_of_ascii hd,
          Char.toNat_inj]
      · refine ⟨fun h => ?_, fun h => absurd (h ▸ hd) hc⟩
        rw [List.head?_append_of_ne_nil _ String.utf8EncodeChar_ne_nil] at h
        have hbyte := le_toNat_of_mem_utf8EncodeChar hc _ (List.mem_of_head? h)
        rw [toNat_toUInt8_of_ascii hd] at hbyte
        omega

/-- The bytes of a text are in a class of ASCII characters exactly if its characters are. -/
theorem all_utf8_iff {q : Char → Bool} (hq : ∀ c, q c → c.toNat < 128) {s : List Char} :
    ((utf8 s).all fun b => q (Char.ofUInt8 b)) ↔ ∀ c ∈ s, q c := by
  rw [utf8, List.all_flatMap, List.all_eq_true]
  refine forall₂_congr fun c _ => ?_
  by_cases hc : c.toNat < 128
  · have hback : Char.ofUInt8 c.toUInt8 = c :=
      Char.toNat_inj.1 (toNat_toUInt8_of_ascii hc)
    rw [utf8EncodeChar_of_ascii hc, List.all_cons, List.all_nil, Bool.and_true, hback]
  · refine iff_of_false (fun h => ?_) fun h => hc (hq c h)
    obtain ⟨b, hb⟩ := List.exists_mem_of_ne_nil _ (String.utf8EncodeChar_ne_nil (c := c))
    have hlow : b.toNat < 128 := hq _ (List.all_eq_true.1 h b hb)
    have hhigh := le_toNat_of_mem_utf8EncodeChar hc b hb
    omega

end DataSheet.Text
