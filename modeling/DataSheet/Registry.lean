/-
**Registries.**

A registry keeps items in ascending order of a key and can also be asked by name.  Several items may
carry one name; the name then leads to the item entered last.  When that item gives way to another,
the name falls back to the item with the highest key that still carries it.  A registry of members
and the dictionary itself are both of this kind.

Main definitions:

* `Registered` — the key and the name of an item;
* `Registry` — items and the keys to which names lead;
* `Registry.insert` — enters an item in the stead of the one with its key;
* `Registry.find?`, `Registry.findByName?` — the item with a key, the one to which a name leads;
* `Registry.modify` — changes an item in place, without regard to names.

Main results:

* `Registry.find?_insert` — entering an item changes look-up at its own key only;
* `Registry.ascends_insert` — entering an item keeps the keys strictly ascending.
-/

import DataSheet.Ascending

set_option relaxedAutoImplicit false
set_option autoImplicit false

namespace DataSheet

/-- Items of type `α` have a key, which orders them, and a name. -/
class Registered (κ : outParam Type) (α : Type) where
  key : α → κ
  name : α → String

/-- Items with a key and a name. -/
structure Registry (κ α : Type) where
  /-- The items, by ascending key. -/
  items : List α
  /-- The keys to which names lead.  Of two entries for a name the first one counts. -/
  holders : List (String × κ)
  deriving DecidableEq

namespace Registry

variable {κ α : Type}

/-- The registry without items. -/
def empty : Registry κ α := ⟨[], []⟩

/-- The key to which a name leads. -/
def holder? (r : Registry κ α) (name : String) : Option κ :=
  (r.holders.find? fun h => h.1 = name).map Prod.snd

/-- Makes a name lead nowhere. -/
def release (name : String) (holders : List (String × κ)) : List (String × κ) :=
  holders.filter fun h => h.1 ≠ name

/-- Makes a name lead to a key. -/
def assign (name : String) (k : κ) (holders : List (String × κ)) : List (String × κ) :=
  (name, k) :: holders

variable [DecidableEq κ] [Registered κ α]

/-- The item with key `k`. -/
@[specialize]
def find? (r : Registry κ α) (k : κ) : Option α := Ascending.find? Registered.key k r.items

/-- The item to which a name leads. -/
@[specialize]
def findByName? (r : Registry κ α) (name : String) : Option α :=
  (r.holder? name).bind r.find?

/-- The items whose key is not `k`. -/
@[specialize]
def others (r : Registry κ α) (k : κ) : List α := r.items.filter fun a => Registered.key a ≠ k

/-- Where names lead once the item with key `k` is gone: its name, if it led there, falls back to
the item with the highest key that carries it. -/
@[specialize]
def fallBack (r : Registry κ α) (k : κ) : List (String × κ) :=
  match r.find? k with
  | none => r.holders
  | some old =>
    let name := Registered.name old
    if r.holder? name = some k then
      match ((r.others k).filter fun a => Registered.name a = name).getLast? with
      | none => release name r.holders
      | some other => assign name (Registered.key other) r.holders
    else r.holders

/-- Enters `a` in the stead of the item with its key. -/
@[specialize]
def insert [LT κ] [DecidableLT κ] (r : Registry κ α) (a : α) : Registry κ α where
  items := Ascending.insert Registered.key a r.items
  holders := assign (Registered.name a) (Registered.key a) (r.fallBack (Registered.key a))

/-- Changes the item with key `k` in place.  Where names lead stays as it was. -/
@[specialize]
def modify (r : Registry κ α) (k : κ) (f : α → α) : Registry κ α :=
  { r with items := r.items.map fun a => if Registered.key a = k then f a else a }

/-- The number of items. -/
def size (r : Registry κ α) : Nat := r.items.length

/-- The keys strictly ascend. -/
def Ascends [LT κ] (r : Registry κ α) : Prop :=
  r.items.Pairwise fun a b => Registered.key a < Registered.key b

/-! ### Entering an item -/

variable [LT κ] [DecidableLT κ]

/-- Entering an item changes what is found at its own key and nothing else. -/
theorem find?_insert (r : Registry κ α) (a : α) (k : κ) :
    (r.insert a).find? k = if Registered.key a = k then some a else r.find? k :=
  Ascending.find?_insert _ a k r.items

omit [DecidableEq κ] [DecidableLT κ] in
theorem ascends_empty : (empty : Registry κ α).Ascends := List.Pairwise.nil

/-- Entering an item keeps the keys strictly ascending. -/
theorem ascends_insert [LE κ] [Std.IsLinearOrder κ] [Std.LawfulOrderLT κ] (r : Registry κ α)
    (a : α) (h : r.Ascends) : (r.insert a).Ascends :=
  Ascending.pairwise_insert _ a r.items h

end Registry

end DataSheet
