/-
**Lists in ascending order of a key.**

Objects by index, members by subindex, labels by raw value: each of these is a list in which every
key occurs once and the keys ascend.  This module holds the two operations on such lists and what
they do to look-up, order and membership.

Main definitions:

* `Ascending.insert` — puts an item at the place its key gives it, in the stead of the item that
  had the key before;
* `Ascending.find?` — the item with a given key.

Main results:

* `Ascending.find?_insert` — an insertion changes look-up at its own key only;
* `Ascending.pairwise_insert` — an insertion keeps the keys strictly ascending;
* `Ascending.insert_comm` — insertions at different keys commute;
* `Ascending.find?_of_mem` — where keys ascend, an item is found by its key;
* `Ascending.mem_insert` — what an insertion leaves in the list.
-/

set_option relaxedAutoImplicit false
set_option autoImplicit false

namespace DataSheet.Ascending

variable {α κ : Type} [DecidableEq κ]

/-! ### Look-up -/

/-- The item with key `k`. -/
@[specialize]
def find? (key : α → κ) (k : κ) (l : List α) : Option α :=
  l.find? fun a => key a = k

theorem find?_cons (key : α → κ) (k : κ) (a : α) (l : List α) :
    find? key k (a :: l) = if key a = k then some a else find? key k l := by
  by_cases h : key a = k <;> simp [find?, h]

/-- A function that keeps keys may be applied before or after look-up. -/
theorem find?_map {key : α → κ} {f : α → α} (hf : ∀ a, key (f a) = key a) (k : κ) (l : List α) :
    find? key k (l.map f) = (find? key k l).map f := by
  induction l with
  | nil => rfl
  | cons b l ih =>
    rw [List.map_cons, find?_cons, find?_cons, hf, ih]
    split <;> rfl

/-! ### Insertion -/

variable [LT κ] [DecidableLT κ]

/-- Puts `a` where its key belongs.  An item with the same key gives way to it. -/
@[specialize]
def insert (key : α → κ) (a : α) : List α → List α
  | [] => [a]
  | b :: l =>
    if key a < key b then a :: b :: l
    else if key a = key b then a :: l
    else b :: insert key a l

/-- An insertion changes what is found at its own key and nothing else. -/
theorem find?_insert (key : α → κ) (a : α) (k : κ) (l : List α) :
    find? key k (insert key a l) = if key a = k then some a else find? key k l := by
  induction l with
  | nil => simp [insert, find?_cons]
  | cons b l ih =>
    simp only [insert]
    split
    · simp [find?_cons]
    · split <;> simp only [find?_cons, ih] <;> grind

/-- A function that keeps keys may be applied before or after an insertion. -/
theorem map_insert {key : α → κ} {f : α → α} (hf : ∀ a, key (f a) = key a) (a : α) (l : List α) :
    (insert key a l).map f = insert key (f a) (l.map f) := by
  induction l with
  | nil => rfl
  | cons b l ih =>
    simp only [insert, List.map_cons, hf]
    split
    · rfl
    · split
      · rfl
      · rw [List.map_cons, ih]

theorem eq_or_mem_of_mem_insert (key : α → κ) (a b : α) (l : List α)
    (h : b ∈ insert key a l) : b = a ∨ b ∈ l := by
  induction l with
  | nil => simpa [insert] using h
  | cons c l ih => grind [insert]

variable [LE κ] [Std.IsLinearOrder κ] [Std.LawfulOrderLT κ]

/-- Insertions at different keys commute. -/
theorem insert_comm {key : α → κ} {a b : α} (h : key a ≠ key b) (l : List α) :
    insert key a (insert key b l) = insert key b (insert key a l) := by
  induction l with
  | nil =>
    simp only [insert]
    grind
  | cons c l ih =>
    simp only [insert]
    grind [insert]

/-- An insertion keeps the keys strictly ascending. -/
theorem pairwise_insert (key : α → κ) (a : α) (l : List α)
    (h : l.Pairwise fun x y => key x < key y) :
    (insert key a l).Pairwise fun x y => key x < key y := by
  induction l with
  | nil => simp [insert]
  | cons b l ih =>
    rw [List.pairwise_cons] at h
    simp only [insert]
    split
    · grind [List.pairwise_cons]
    · split
      · grind [List.pairwise_cons]
      · refine List.pairwise_cons.2 ⟨fun c hc => ?_, ih h.2⟩
        rcases eq_or_mem_of_mem_insert key a c l hc with rfl | hc
        · grind
        · exact h.1 c hc

omit [DecidableLT κ] in
/-- Where keys ascend, an item is found by its key. -/
theorem find?_of_mem (key : α → κ) {a : α} {l : List α}
    (h : l.Pairwise fun x y => key x < key y) (ha : a ∈ l) : find? key (key a) l = some a := by
  induction l with
  | nil => cases ha
  | cons b l ih =>
    rw [List.pairwise_cons] at h
    rw [find?_cons]
    rcases List.mem_cons.1 ha with rfl | ha
    · rw [if_pos rfl]
    · have hb : key b < key a := h.1 a ha
      rw [if_neg (by grind), ih h.2 ha]

/-- After an insertion the list holds the new item and the old ones with another key. -/
theorem mem_insert (key : α → κ) (a b : α) (l : List α)
    (h : l.Pairwise fun x y => key x < key y) :
    b ∈ insert key a l ↔ b = a ∨ (b ∈ l ∧ key b ≠ key a) := by
  induction l with
  | nil => simp [insert]
  | cons c l ih =>
    rw [List.pairwise_cons] at h
    have := ih h.2
    simp only [insert]
    split
    · grind
    · split <;> grind

end DataSheet.Ascending
