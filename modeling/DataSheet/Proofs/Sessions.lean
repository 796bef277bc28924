/-
**Dictionaries over whole sessions.**

Whoever holds a dictionary may read another one in its stead, enter objects and members, rename and
describe what is there, and set the bitrate and the node, in any order.  This module says what all
dictionaries have in common that such a session can leave, and what entering an object or a member
does to one of them.

Main definitions:

* `Group.Assembled`, `Object.Assembled`, `Dictionary.Assembled` — made by entering one item after
  the other;
* `Dictionary.Action`, `Dictionary.ofSession` — what may be done to a dictionary, and what a session
  leaves;
* `Dictionary.view` — the objects of one kind;
* `Group.Ordered`, `Dictionary.Ordered` — items ascend, and all ways to ask for them agree;
* `Dictionary.Exchanged`, `Dictionary.Joined` — what entering an object and a member does.

Main results:

* `Dictionary.Assembled.act` — **every action keeps a dictionary assembled**;
* `Dictionary.Assembled.ordered` — an assembled dictionary is in order;
* `sessions_keep_order` — **every session leaves a dictionary in order**, and there an object or a
  member that is entered changes its own place only.
-/

import DataSheet.Proofs.Names
import Mathlib.Data.List.Sort

set_option relaxedAutoImplicit false
set_option autoImplicit false

namespace DataSheet

/-! ### Items entered one after the other -/

/-- The group is what its members leave, entered one after the other. -/
def Group.Assembled (g : Group) : Prop :=
  ∃ vs, g = Group.ofMembers g.kind g.index g.name g.description vs

namespace Group

/-- Entering members changes the members only. -/
theorem eq_ofMembers_iff {g : Group} {vs : List Variable} :
    g = Group.ofMembers g.kind g.index g.name g.description vs ↔
      g.members = Registry.ofHistory (vs.map .enter) := by
  have hrun : ∀ h : Group, vs.foldl Group.insert h =
      { h with members := (vs.foldl Group.insert h).members } := by
    induction vs with
    | nil => intro h; rfl
    | cons v vs ih => intro h; exact ih (h.insert v)
  rw [← members_ofMembers g.kind g.index g.name g.description vs]
  constructor
  · intro h
    rw [← h]
  · intro h
    rw [ofMembers, hrun, ← ofMembers, ← h]

/-- A group is assembled exactly if its members are. -/
theorem assembled_iff {g : Group} :
    g.Assembled ↔ ∃ vs : List Variable, g.members = Registry.ofHistory (vs.map .enter) :=
  exists_congr fun _ => eq_ofMembers_iff

theorem assembled_empty (kind : GroupKind) (name : String) (index : UInt16) (description : String) :
    Assembled { empty kind name index with description := description } :=
  assembled_iff.2 ⟨[], rfl⟩

theorem Assembled.insert {g : Group} (h : g.Assembled) (v : Variable) : (g.insert v).Assembled := by
  obtain ⟨vs, hvs⟩ := assembled_iff.1 h
  refine assembled_iff.2 ⟨vs ++ [v], ?_⟩
  rw [List.map_append, Registry.ofHistory, List.foldl_append, ← Registry.ofHistory, ← hvs]
  rfl

theorem Assembled.ascends {g : Group} (h : g.Assembled) : g.members.Ascends := by
  obtain ⟨vs, hvs⟩ := assembled_iff.1 h
  rw [hvs]
  exact (Registry.sound_ofHistory _).ascends

end Group

namespace Object

/-- A group is made by entering one member after the other. -/
def Assembled : Object → Prop
  | plain _ => True
  | group g => g.Assembled

/-- The object with its variable changed, if it is a plain one. -/
def amend (f : Variable → Variable) : Object → Object
  | plain v => plain (f v)
  | group g => group g

/-- The kind of a group; plain variables are of a kind of their own. -/
def kind? : Object → Option GroupKind
  | plain _ => none
  | group g => some g.kind

theorem index_amend {f : Variable → Variable} (hf : ∀ v, (f v).index = v.index) (o : Object) :
    (o.amend f).index = o.index := by
  cases o with
  | plain v => exact hf v
  | group g => rfl

theorem Assembled.amend {o : Object} (h : o.Assembled) (f : Variable → Variable) :
    (o.amend f).Assembled := by
  cases o with
  | plain v => trivial
  | group g => exact h

theorem Assembled.rename {o : Object} (h : o.Assembled) (name : String) :
    (o.rename name).Assembled := by
  cases o with
  | plain v => trivial
  | group g =>
      -- the members do not know the name of their group
      obtain ⟨vs, hvs⟩ := Group.assembled_iff.1 h
      exact Group.assembled_iff.2 ⟨vs, hvs⟩

theorem Assembled.attach {o : Object} (h : o.Assembled) (v : Variable) :
    (o.attach v).Assembled := by
  cases o with
  | plain w => trivial
  | group g => exact Group.Assembled.insert h v

end Object

/-- What a section describes is assembled. -/
theorem Sheet.assembled_object {sheet : Sheet} {s : Section} {index : UInt16} {node : Option UInt8}
    {o : Object} (h : (sheet.object s index node).outcome = .ok o) : o.Assembled := by
  rcases object_cases h with ⟨v, -, rfl⟩ | ⟨name, count, template, -, -, rfl⟩ |
    ⟨kind, name, description, rfl⟩
  · trivial
  · exact ((Group.assembled_empty .array name index "").insert count).insert template
  · exact Group.assembled_empty kind name index description

namespace Dictionary

/-! ### Sessions -/

/-- The indices ascend, and all objects are assembled. -/
structure Assembled (d : Dictionary) : Prop where
  ascends : d.registry.Ascends
  objects : ∀ o ∈ d.objects, o.Assembled

/-- What may be done to a dictionary.  Objects that are entered must be assembled. -/
inductive Action
  | read (text : String) (node : Option UInt8)
  | enter (o : Object) (assembled : o.Assembled)
  | enterMember (index : UInt16) (v : Variable)
  | rename (index : UInt16) (name : String)
  | describe (index : UInt16) (n : Int64) (label : String)
  | defineBits (index : UInt16) (field : String) (bits : List UInt8)
  | setBitrate (bitrate : Option UInt32)
  | setNode (node : Option UInt8)

/-- The dictionary after an action.  A text that cannot be read leaves it as it was, and so does an
action on an object that is missing or not of the kind to be acted on. -/
def act (d : Dictionary) : Action → Dictionary
  | .read text node =>
    match (ofText text node).outcome with
    | .ok d' => d'
    | .error _ => d
  | .enter o _ => d.insert o
  | .enterMember index v => d.insertMember index v
  | .rename index name => d.modify index (Object.rename name)
  | .describe index n label => d.modify index (Object.amend fun v => v.describe n label)
  | .defineBits index field bits => d.modify index (Object.amend fun v => v.defineBits field bits)
  | .setBitrate bitrate => { d with bitrate := bitrate }
  | .setNode node => { d with nodeId := node }

/-- The dictionary that a session leaves. -/
def ofSession (actions : List Action) : Dictionary := actions.foldl act empty

theorem assembled_empty : empty.Assembled where
  ascends := Registry.ascends_empty
  objects := by
    intro o ho
    cases ho

theorem Assembled.insert {d : Dictionary} (h : d.Assembled) {o : Object} (ho : o.Assembled) :
    (d.insert o).Assembled where
  ascends := Registry.ascends_insert d.registry o h.ascends
  objects := by
    intro p hp
    rcases Ascending.eq_or_mem_of_mem_insert _ _ _ _ hp with rfl | hp
    · exact ho
    · exact h.objects p hp

/-- A change in place keeps a dictionary assembled if it keeps the index of an object and keeps it
assembled. -/
theorem Assembled.modify {d : Dictionary} (h : d.Assembled) (index : UInt16) {f : Object → Object}
    (hindex : ∀ o, (f o).index = o.index) (hf : ∀ o, o.Assembled → (f o).Assembled) :
    (d.modify index f).Assembled where
  ascends := h.ascends.modify_of_key hindex
  objects := by
    intro p hp
    obtain ⟨o, ho, rfl⟩ := Registry.mem_items_modify.1 hp
    split
    · exact hf o (h.objects o ho)
    · exact h.objects o ho

theorem Assembled.insertMember {d : Dictionary} (h : d.Assembled) (index : UInt16) (v : Variable) :
    (d.insertMember index v).Assembled := by
  rw [insertMember_eq_modify]
  exact h.modify index (fun o => o.index_attach v) fun o ho => ho.attach v

theorem Assembled.insertMembers {d : Dictionary} (h : d.Assembled) (index : UInt16)
    (vs : List Variable) : (d.insertMembers index vs).Assembled := by
  induction vs generalizing d with
  | nil => exact h
  | cons v vs ih => exact ih (h.insertMember index v)

/-- What a text describes is assembled. -/
theorem assembled_ofText {text : String} {node : Option UInt8} {d : Dictionary}
    (h : (ofText text node).outcome = .ok d) : d.Assembled := by
  obtain ⟨sheet, -, hd⟩ := outcome_ofText_eq_ok_iff.1 h
  refine Sheet.dictionary_keeps ?_ ?_ ?_ ?_ ?_ ?_ hd
  · exact ⟨assembled_empty.ascends, assembled_empty.objects⟩
  · intro d b hd
    exact ⟨hd.ascends, hd.objects⟩
  · intro d i hd
    exact hd.insert trivial
  · intro d s i o hd ho
    exact hd.insert (Sheet.assembled_object ho)
  · intro d s a v o hd _ _
    exact hd.insertMembers a.index _
  · intro d s i count o vs hd _ _
    exact hd.insertMembers i vs

/-- **Every action keeps a dictionary assembled.** -/
theorem Assembled.act {d : Dictionary} (h : d.Assembled) (a : Action) : (d.act a).Assembled := by
  cases a with
  | read text node =>
      rw [Dictionary.act]
      cases hd : (ofText text node).outcome with
      | ok d' => exact assembled_ofText hd
      | error f => exact h
  | enter o ho => exact h.insert ho
  | enterMember index v => exact h.insertMember index v
  | rename index name =>
      exact h.modify index (Object.index_rename name) fun o ho => ho.rename name
  | describe index n label =>
      exact h.modify index (Object.index_amend fun _ => rfl) fun o ho => ho.amend _
  | defineBits index field bits =>
      exact h.modify index (Object.index_amend fun _ => rfl) fun o ho => ho.amend _
  | setBitrate bitrate => exact ⟨h.ascends, h.objects⟩
  | setNode node => exact ⟨h.ascends, h.objects⟩

/-- **Every session leaves an assembled dictionary.** -/
theorem assembled_ofSession (actions : List Action) : (ofSession actions).Assembled := by
  have hrun : ∀ d : Dictionary, d.Assembled → (actions.foldl Dictionary.act d).Assembled := by
    induction actions with
    | nil => exact fun d h => h
    | cons a actions ih => exact fun d h => ih _ (h.act a)
  exact hrun empty assembled_empty

end Dictionary

/-! ### Items in order -/

namespace Registry

variable {κ α : Type} [DecidableEq κ] [Registered κ α] [LT κ] [LE κ] [Std.IsLinearOrder κ]
  [Std.LawfulOrderLT κ]

open Registered (key)

/-- Where keys ascend, what is found at a key is the item that has it. -/
theorem Ascends.find?_eq_some_iff {r : Registry κ α} (h : r.Ascends) {k : κ} {a : α} :
    r.find? k = some a ↔ a ∈ r.items ∧ key a = k := by
  constructor
  · exact mem_of_find?
  · rintro ⟨ha, rfl⟩
    exact h.find?_key ha

end Registry

/-- The members of a group ascend by their own subindex, and all ways to ask for one agree with
them. -/
structure Group.Ordered (g : Group) : Prop where
  ascends : g.members.items.Pairwise fun v w => v.subindex < w.subindex
  /-- A member is stored at its own subindex and nowhere else. -/
  stored : ∀ s v, g.member? s = some v ↔ v ∈ g.members.items ∧ v.subindex = s
  /-- A record gives what it stores and nothing else. -/
  record : g.kind = .record → ∀ s e,
    g.element s = .ok e ↔ ∃ v ∈ g.members.items, e = .stored v ∧ v.subindex.toUInt16 = s
  /-- An array gives what it stores, wherever it stores something. -/
  array : ∀ s v, g.element s = .ok (.stored v) ↔ v ∈ g.members.items ∧ v.subindex.toUInt16 = s
  contains : ∀ s, g.contains s ↔ ∃ v ∈ g.members.items, v.subindex = s
  size : g.size = g.members.items.length
  /-- The subindices in use are those of the members, in this order. -/
  inUse : ((List.range 256).map UInt8.ofNat).filter g.contains = g.members.items.map (·.subindex)

namespace Dictionary

/-- The objects of one kind. -/
def view (d : Dictionary) : Option GroupKind → List Object
  | none => d.plainVariables.map .plain
  | some kind => (d.groups kind).map .group

/-- The objects of a dictionary ascend by their own index, all ways to ask for one agree with them,
each is in the view of one kind, and the members of each group are in order, too. -/
structure Ordered (d : Dictionary) : Prop where
  ascends : d.objects.Pairwise fun o p => o.index < p.index
  /-- An object is found at its own index and nowhere else. -/
  found : ∀ i o, d.get (.index i) = .ok o ↔ o ∈ d.objects ∧ o.index = i
  contains : ∀ i, d.contains i ↔ ∃ o, d.get (.index i) = .ok o
  /-- A view is a part of the objects, in their order. -/
  part : ∀ kind, (d.view kind).Sublist d.objects
  /-- It holds all objects of its kind. -/
  whole : ∀ kind, d.view kind = d.objects.filter fun o => o.kind? = kind
  once : ∀ o ∈ d.objects, ∃! kind, o ∈ d.view kind
  groups : ∀ g, .group g ∈ d.objects → g.Ordered

/-- An object was entered: `previous` is what stood at its index, and nothing changes elsewhere. -/
structure Exchanged (d : Dictionary) (o : Object) (previous : Option Object) (d' : Dictionary) :
    Prop where
  previous : ∀ p, previous = some p ↔ d.get (.index o.index) = .ok p
  own : d'.get (.index o.index) = .ok o
  others : ∀ i, i ≠ o.index → d'.get (.index i) = d.get (.index i)
  settings : d'.bitrate = d.bitrate ∧ d'.nodeId = d.nodeId

/-- A member was entered at an index: if there is a group, its member at the own subindex of `v` is
now `v`, and nothing changes elsewhere. -/
structure Joined (d : Dictionary) (index : UInt16) (v : Variable) (d' : Dictionary) : Prop where
  own : ∀ g, d.get (.index index) = .ok (.group g) →
    ∃ g', d'.get (.index index) = .ok (.group g') ∧
      (g'.kind, g'.index, g'.name, g'.description) = (g.kind, g.index, g.name, g.description) ∧
      ∀ s, g'.member? s = if v.subindex = s then some v else g.member? s
  others : ∀ i, i ≠ index → d'.get (.index i) = d.get (.index i)
  missing : (∀ g, d.get (.index index) ≠ .ok (.group g)) → d' = d
  settings : d'.bitrate = d.bitrate ∧ d'.nodeId = d.nodeId

end Dictionary

/-! ### Groups in order -/

namespace Group

variable {g : Group}

theorem narrow?_eq_some_iff {s : UInt16} {t : UInt8} : narrow? s = some t ↔ t.toUInt16 = s := by
  unfold narrow?
  constructor
  · intro h
    split at h
    next hs =>
      cases h
      exact UInt16.toNat.inj (by simpa using hs)
    next => cases h
  · rintro rfl
    have hs : t.toUInt16.toNat < 256 := by
      rw [UInt8.toNat_toUInt16]
      exact t.toNat_lt
    rw [if_pos hs, UInt8.toUInt8_toUInt16]

/-- A member is stored exactly at its own subindex. -/
theorem Assembled.member?_eq_some_iff (h : g.Assembled) {s : UInt8} {v : Variable} :
    g.member? s = some v ↔ v ∈ g.members.items ∧ v.subindex = s :=
  h.ascends.find?_eq_some_iff

/-- The same for subindices of sixteen bits. -/
theorem Assembled.bind_member?_eq_some_iff (h : g.Assembled) {s : UInt16} {v : Variable} :
    (narrow? s).bind g.member? = some v ↔ v ∈ g.members.items ∧ v.subindex.toUInt16 = s := by
  simp only [Option.bind_eq_some_iff, narrow?_eq_some_iff, h.member?_eq_some_iff]
  constructor
  · rintro ⟨t, rfl, hv, rfl⟩
    exact ⟨hv, rfl⟩
  · rintro ⟨hv, rfl⟩
    exact ⟨v.subindex, rfl, hv, rfl⟩

/-- What is stored is given, and what is not is given as stored by no group. -/
theorem element_eq_stored_iff {s : UInt16} {v : Variable} :
    g.element s = .ok (.stored v) ↔ (narrow? s).bind g.member? = some v := by
  unfold element
  cases (narrow? s).bind g.member? with
  | some w => simp
  | none =>
      cases g.kind with
      | record => simp
      | array =>
          dsimp only
          split
          · simp
          · split
            · simp
            · split <;> simp

/-- A record gives what it stores and nothing else. -/
theorem element_record (hkind : g.kind = .record) {s : UInt16} {e : Element} :
    g.element s = .ok e ↔ ∃ v, (narrow? s).bind g.member? = some v ∧ e = .stored v := by
  unfold element
  rw [hkind]
  cases (narrow? s).bind g.member? with
  | some w => simp [eq_comm]
  | none => simp

theorem Assembled.contains_iff (h : g.Assembled) (s : UInt8) :
    g.contains s ↔ ∃ v ∈ g.members.items, v.subindex = s := by
  simp only [contains, Option.isSome_iff_exists, h.member?_eq_some_iff]

/-- The subindices up to 255 ascend. -/
theorem pairwise_subindices :
    ((List.range 256).map UInt8.ofNat).Pairwise fun s t => s < t := by
  refine List.pairwise_map.2 (List.pairwise_lt_range.imp_of_mem ?_)
  intro a b ha hb hab
  rw [List.mem_range] at ha hb
  rw [UInt8.lt_iff_toNat_lt, UInt8.toNat_ofNat_of_lt' ha, UInt8.toNat_ofNat_of_lt' hb]
  exact hab

theorem mem_subindices (s : UInt8) : s ∈ (List.range 256).map UInt8.ofNat :=
  List.mem_map.2 ⟨s.toNat, List.mem_range.2 s.toNat_lt, UInt8.ofNat_toNat⟩

/-- The subindices in use are those of the members: both ascend and hold the same. -/
theorem Assembled.inUse (h : g.Assembled) :
    ((List.range 256).map UInt8.ofNat).filter g.contains = g.members.items.map (·.subindex) := by
  have hmembers : (g.members.items.map (·.subindex)).Pairwise fun s t => s < t :=
    List.pairwise_map.2 h.ascends
  refine List.Pairwise.eq_of_mem_iff (pairwise_subindices.filter _) hmembers fun s => ?_
  rw [List.mem_filter, and_iff_right (mem_subindices s), h.contains_iff, List.mem_map]

/-- **An assembled group is in order.** -/
theorem Assembled.ordered (h : g.Assembled) : g.Ordered where
  ascends := h.ascends
  stored s v := h.member?_eq_some_iff
  record hkind s e := by
    simp only [element_record hkind, h.bind_member?_eq_some_iff]
    constructor
    · rintro ⟨v, ⟨hv, hs⟩, rfl⟩
      exact ⟨v, hv, rfl, hs⟩
    · rintro ⟨v, hv, rfl, hs⟩
      exact ⟨v, ⟨hv, hs⟩, rfl⟩
  array s v := element_eq_stored_iff.trans h.bind_member?_eq_some_iff
  contains := h.contains_iff
  size := rfl
  inUse := h.inUse

end Group

/-! ### Dictionaries in order -/

namespace Dictionary

variable {d : Dictionary}

/-- The view of a kind holds all objects of that kind, in their order. -/
theorem view_eq_filter (d : Dictionary) (kind : Option GroupKind) :
    d.view kind = d.objects.filter fun o => o.kind? = kind := by
  rw [← List.filterMap_eq_filter]
  cases kind with
  | none =>
      rw [view, plainVariables, List.map_filterMap]
      refine congrArg (List.filterMap · d.objects) (funext fun o => ?_)
      cases o <;> simp [Object.kind?, Option.guard]
  | some kind =>
      rw [view, groups, List.map_filterMap]
      refine congrArg (List.filterMap · d.objects) (funext fun o => ?_)
      cases o with
      | plain v => simp [Object.kind?, Option.guard]
      | group g => by_cases h : g.kind = kind <;> simp [Object.kind?, Option.guard, h]

theorem mem_view_iff {kind : Option GroupKind} {o : Object} :
    o ∈ d.view kind ↔ o ∈ d.objects ∧ o.kind? = kind := by
  rw [view_eq_filter, List.mem_filter, decide_eq_true_eq]

/-- **An assembled dictionary is in order.** -/
theorem Assembled.ordered (h : d.Assembled) : d.Ordered where
  ascends := h.ascends
  found i o := get_index_eq_ok_iff.trans h.ascends.find?_eq_some_iff
  contains i := by
    simp only [contains, Option.isSome_iff_exists, get_index_eq_ok_iff]
  part kind := by
    rw [view_eq_filter]
    exact List.filter_sublist
  whole := d.view_eq_filter
  once o ho := ⟨o.kind?, mem_view_iff.2 ⟨ho, rfl⟩, fun kind hkind => (mem_view_iff.1 hkind).2.symm⟩
  groups g hg := Group.Assembled.ordered (h.objects (.group g) hg)

/-! ### Entering objects and members -/

theorem get_insert (d : Dictionary) (o : Object) (i : UInt16) :
    (d.insert o).get (.index i) = if o.index = i then .ok o else d.get (.index i) := by
  rw [get_index, get_index, find?_insert]
  by_cases h : o.index = i <;> simp [h]

/-- **An object that is entered takes its own place only**, and what stood there is given back. -/
theorem exchanged (d : Dictionary) (o : Object) : d.Exchanged o (d.find? o.index) (d.insert o) where
  previous p := get_index_eq_ok_iff.symm
  own := by rw [get_insert, if_pos rfl]
  others i hi := by rw [get_insert, if_neg hi.symm]
  settings := ⟨rfl, rfl⟩

theorem get_insertMember_of_ne (d : Dictionary) {index i : UInt16} (v : Variable) (h : i ≠ index) :
    (d.insertMember index v).get (.index i) = d.get (.index i) := by
  have hfind : (d.insertMember index v).find? i = d.find? i := by
    rw [find?_insertMember]
    cases ho : d.find? i with
    | none => rfl
    | some o => rw [Option.map_some, if_neg (index_of_find? ho ▸ h)]
  rw [get_index, get_index, hfind]

/-- Where there is no group, no member is entered. -/
theorem Assembled.insertMember_eq_self (h : d.Assembled) {index : UInt16} (v : Variable)
    (hnone : ∀ g, d.get (.index index) ≠ .ok (.group g)) : d.insertMember index v = d := by
  have hstays : ∀ o ∈ d.registry.items,
      (if Registered.key o = index then o.attach v else o) = o := by
    intro o ho
    split
    next hkey =>
      cases o with
      | plain w => rfl
      | group g => exact absurd ((h.ordered.found index _).2 ⟨ho, hkey⟩) (hnone g)
    next => rfl
  rw [insertMember_eq_modify, Dictionary.modify, Registry.modify, List.map_congr_left hstays,
    List.map_id']

/-- **A member that is entered takes its own place only**, in the group at the index. -/
theorem Assembled.joined (h : d.Assembled) (index : UInt16) (v : Variable) :
    d.Joined index v (d.insertMember index v) where
  own g hg := by
    have hfind := find?_insertMember_group (get_index_eq_ok_iff.1 hg) v
    exact ⟨g.insert v, get_index_eq_ok_iff.2 hfind, rfl, g.member?_insert v⟩
  others i hi := d.get_insertMember_of_ne v hi
  missing := h.insertMember_eq_self v
  settings := ⟨rfl, rfl⟩

end Dictionary

/-- **Every session leaves a dictionary in order.**  An object that is then entered takes the place
at its own index and gives back what stood there, and a member takes the place at its own subindex
in the group at an index; nothing else changes. -/
theorem sessions_keep_order (actions : List Dictionary.Action) :
    let d := Dictionary.ofSession actions
    d.Ordered ∧
      (∀ o ho, ∃ previous, (d.exchange o).outcome = .ok (previous, d.act (.enter o ho)) ∧
        d.Exchanged o previous (d.act (.enter o ho))) ∧
      ∀ index v, d.Joined index v (d.act (.enterMember index v)) := by
  intro d
  have h : d.Assembled := Dictionary.assembled_ofSession actions
  exact ⟨h.ordered, fun o _ => ⟨d.find? o.index, d.outcome_exchange o, d.exchanged o⟩, h.joined⟩

end DataSheet
