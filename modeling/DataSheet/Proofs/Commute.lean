/-
**Sections about different things commute.**

Each run over a data sheet takes one step for each section.  The steps of two sections that are
about different things give the same dictionary in either order, but for the memory of names; and a
run whose steps commute gives the same in every order.

Main definitions:

* `Contribution`, `Dictionary.take` — what a section adds in the first run, and taking it over;
* `Dictionary.amend` — the addition of members to an object, which the two later runs make;
* `Section.Apart` — two sections with their headings are about different things.

Main results:

* `foldlM_perm` — **a run gives the same in every order, if any two of its steps commute**;
* `Dictionary.take_comm`, `Dictionary.amend_comm` — additions of different things commute;
* `Dictionary.firstPass_comm`, `Dictionary.secondPass_comm`, `Dictionary.thirdPass_comm` — **in each
  run, sections about different things commute**.
-/

import DataSheet.Proofs.Bare
import DataSheet.Proofs.Typing

set_option relaxedAutoImplicit false
set_option autoImplicit false

namespace DataSheet

/-! ### Runs in any order -/

section Runs

variable {α β γ : Type} {f : β → α → Option β} {view : β → γ}

/-- A step that changes nothing may come before or after any other one. -/
theorem bind_comm_of_skip {g h : β → Option β} (hskip : ∀ b, g b = some b) (b : β) :
    (g b).bind h = (h b).bind g := by
  have hg : g = some := funext hskip
  rw [hg, Option.bind_some, Option.bind_fun_some]

/-- Two steps in a row show the same if the first ones do and the second ones do from states that
show the same. -/
theorem bind_view_congr {o o' : Option β} {k k' : β → Option β} (h : o.map view = o'.map view)
    (hk : ∀ b b', view b = view b' → (k b).map view = (k' b').map view) :
    (o.bind k).map view = (o'.bind k').map view := by
  cases o with
  | none =>
      rw [Option.map_none, eq_comm, Option.map_eq_none_iff] at h
      rw [h]
      rfl
  | some b =>
      rw [Option.map_some, eq_comm, Option.map_eq_some_iff] at h
      obtain ⟨b', rfl, hview⟩ := h
      exact hk b b' hview.symm

theorem foldlM_view_congr {l : List α}
    (congr : ∀ a ∈ l, ∀ b b', view b = view b' → (f b a).map view = (f b' a).map view) :
    ∀ {b b'}, view b = view b' → (l.foldlM f b).map view = (l.foldlM f b').map view := by
  induction l with
  | nil =>
      intro b b' h
      exact congrArg some h
  | cons a l ih =>
      intro b b' h
      rw [List.foldlM_cons, List.foldlM_cons]
      refine bind_view_congr (congr a List.mem_cons_self b b' h) fun c c' hc => ?_
      exact ih (fun x hx => congr x (List.mem_cons_of_mem a hx)) hc

/-- **A run shows the same in every order**, if its steps show the same from states that do, and any
two different ones show the same in either order. -/
theorem foldlM_perm {l l' : List α} (h : l.Perm l')
    (congr : ∀ a ∈ l, ∀ b b', view b = view b' → (f b a).map view = (f b' a).map view)
    (comm : ∀ x ∈ l, ∀ y ∈ l, x ≠ y → ∀ b,
      ((f b x).bind (f · y)).map view = ((f b y).bind (f · x)).map view) :
    ∀ {b b'}, view b = view b' → (l.foldlM f b).map view = (l'.foldlM f b').map view := by
  induction h with
  | nil =>
      intro b b' h
      exact congrArg some h
  | cons a p ih =>
      intro b b' h
      rw [List.foldlM_cons, List.foldlM_cons]
      refine bind_view_congr (congr a List.mem_cons_self b b' h) fun c c' hc => ?_
      exact ih (fun x hx => congr x (List.mem_cons_of_mem a hx))
        (fun x hx y hy => comm x (List.mem_cons_of_mem a hx) y (List.mem_cons_of_mem a hy)) hc
  | swap x y l =>
      intro b b' h
      have hx : x ∈ y :: x :: l := List.mem_cons_of_mem y List.mem_cons_self
      have hl : ∀ z ∈ l, z ∈ y :: x :: l := fun z hz =>
        List.mem_cons_of_mem y (List.mem_cons_of_mem x hz)
      -- the first two steps in the other order, and then the rest
      have hswap : ((y :: x :: l).foldlM f b).map view = ((x :: y :: l).foldlM f b).map view := by
        by_cases hyx : y = x
        · rw [hyx]
        have := bind_view_congr (comm y List.mem_cons_self x hx hyx b)
          (fun c c' hc => foldlM_view_congr (fun z hz => congr z (hl z hz)) hc)
        simpa only [List.foldlM_cons, Option.bind_eq_bind, Option.bind_assoc] using this
      refine hswap.trans (foldlM_view_congr (fun z hz => congr z ?_) h)
      exact (List.Perm.swap x y l).mem_iff.2 hz
  | trans p q ihp ihq =>
      intro b b' h
      have hp := ihp congr comm (b := b) rfl
      have hq := ihq (fun x hx => congr x (p.mem_iff.2 hx))
        (fun x hx y hy => comm x (p.mem_iff.2 hx) y (p.mem_iff.2 hy)) h
      exact hp.trans hq

end Runs

/-! ### Objects and members -/

namespace Dictionary

/-- Objects at different indices may be entered in either order. -/
theorem bare_insert_comm (d : Dictionary) {o p : Object} (h : o.index ≠ p.index) :
    ((d.insert o).insert p).bare = ((d.insert p).insert o).bare := by
  refine bare_ext ?_ rfl rfl
  simp only [objects_insert]
  rw [Ascending.insert_comm (Ne.symm h)]

/-- Enters objects one after the other. -/
def insertObjects (d : Dictionary) (os : List Object) : Dictionary := os.foldl insert d

theorem bare_insertObjects_congr {d e : Dictionary} (h : d.bare = e.bare) (os : List Object) :
    (d.insertObjects os).bare = (e.insertObjects os).bare := by
  induction os generalizing d e with
  | nil => exact h
  | cons o os ih => exact ih (bare_insert_congr h o)

theorem bare_insertObjects_insert (d : Dictionary) {o : Object} {ps : List Object}
    (h : ∀ p ∈ ps, o.index ≠ p.index) :
    ((d.insert o).insertObjects ps).bare = ((d.insertObjects ps).insert o).bare := by
  induction ps generalizing d with
  | nil => rfl
  | cons p ps ih =>
      have hfirst := bare_insertObjects_congr (d.bare_insert_comm (h p List.mem_cons_self)) ps
      exact hfirst.trans (ih (d.insert p) fun q hq => h q (List.mem_cons_of_mem p hq))

theorem bare_insertObjects_comm (d : Dictionary) {os ps : List Object}
    (h : ∀ o ∈ os, ∀ p ∈ ps, o.index ≠ p.index) :
    ((d.insertObjects os).insertObjects ps).bare =
      ((d.insertObjects ps).insertObjects os).bare := by
  induction os generalizing d with
  | nil => rfl
  | cons o os ih =>
      have hrest := ih (d.insert o) fun q hq => h q (List.mem_cons_of_mem o hq)
      refine hrest.trans (bare_insertObjects_congr ?_ os)
      exact d.bare_insertObjects_insert (h o List.mem_cons_self)

@[simp] theorem nodeId_insertObjects (d : Dictionary) (os : List Object) :
    (d.insertObjects os).nodeId = d.nodeId := by
  induction os generalizing d with
  | nil => rfl
  | cons o os ih => exact ih (d.insert o)

@[simp] theorem bitrate_insertObjects (d : Dictionary) (os : List Object) :
    (d.insertObjects os).bitrate = d.bitrate := by
  induction os generalizing d with
  | nil => rfl
  | cons o os ih => exact ih (d.insert o)

theorem insertObjects_withBitrate (d : Dictionary) (b : Option UInt32) (os : List Object) :
    ({ d with bitrate := b } : Dictionary).insertObjects os =
      { d.insertObjects os with bitrate := b } := by
  induction os generalizing d with
  | nil => rfl
  | cons o os ih => exact ih (d.insert o)

/-- Members at different indices may be entered in either order. -/
theorem insertMember_comm (d : Dictionary) {i j : UInt16} (h : i ≠ j) (v w : Variable) :
    (d.insertMember i v).insertMember j w = (d.insertMember j w).insertMember i v := by
  simp only [insertMember_eq_modify]
  unfold modify Registry.modify
  simp only [List.map_map]
  congr 2
  refine List.map_congr_left fun o _ => ?_
  simp only [Function.comp]
  -- both changes keep indices, so that each object is concerned by one of them at most
  by_cases hi : o.index = i <;> by_cases hj : o.index = j <;>
    simp_all [Registered.key]

theorem insertMembers_insertMember (d : Dictionary) {i j : UInt16} (h : i ≠ j) (v : Variable)
    (ws : List Variable) :
    (d.insertMember i v).insertMembers j ws = (d.insertMembers j ws).insertMember i v := by
  induction ws generalizing d with
  | nil => rfl
  | cons w ws ih =>
      change ((d.insertMember i v).insertMember j w).insertMembers j ws = _
      rw [insertMember_comm d h]
      exact ih (d.insertMember j w)

theorem insertMembers_comm (d : Dictionary) {i j : UInt16} (h : i ≠ j) (vs ws : List Variable) :
    (d.insertMembers i vs).insertMembers j ws = (d.insertMembers j ws).insertMembers i vs := by
  induction vs generalizing d with
  | nil => rfl
  | cons v vs ih =>
      change ((d.insertMember i v).insertMembers i vs).insertMembers j ws = _
      rw [ih (d.insertMember i v), insertMembers_insertMember d h]
      rfl

/-- Members at one index with different subindices may be entered in either order. -/
theorem bare_insertMember_comm (d : Dictionary) (i : UInt16) {v w : Variable}
    (h : v.subindex ≠ w.subindex) :
    ((d.insertMember i v).insertMember i w).bare =
      ((d.insertMember i w).insertMember i v).bare := by
  refine bare_ext ?_ rfl rfl
  simp only [objects_insertMember, List.map_map]
  refine List.map_congr_left fun o _ => ?_
  simp only [Function.comp]
  by_cases hi : o.index = i
  · simp only [hi, Object.index_attach, if_true]
    cases o with
    | plain u => rfl
    | group g =>
        have hmembers : ((g.insert v).insert w).members.items =
            ((g.insert w).insert v).members.items :=
          Ascending.insert_comm (Ne.symm h) g.members.items
        simp only [Object.attach, Object.bare, Group.bare, hmembers]
        rfl
  · simp only [hi, if_false]

end Dictionary

/-! ### The first run -/

/-- What a section adds in the first run: objects, and the bitrate if it sets one. -/
structure Contribution where
  objects : List Object
  bitrate : Option UInt32

/-- What a section adds in the first run, if it is in order. -/
def Sheet.contribution (sheet : Sheet) (node : Option UInt8) (headed : Section × Heading) :
    Option Contribution :=
  match headed.2 with
  | .commissioning => headed.1.baudrate.toOption.map fun b => ⟨[], b⟩
  | .dummyUsage =>
    some ⟨(Dictionary.dummies headed.1).map fun i => .plain (Dictionary.dummy i), none⟩
  | .object index => (sheet.object headed.1 index node).result?.map fun o => ⟨[o], none⟩
  | _ => some ⟨[], none⟩

namespace Dictionary

/-- Takes over what a section adds in the first run. -/
def take (d : Dictionary) (c : Contribution) : Dictionary :=
  { d.insertObjects c.objects with bitrate := c.bitrate.or d.bitrate }

theorem result?_firstPass (sheet : Sheet) (d : Dictionary) (headed : Section × Heading) :
    (firstPass sheet d headed).result? = (sheet.contribution d.nodeId headed).map d.take := by
  obtain ⟨s, heading⟩ := headed
  unfold Report.result?
  cases heading with
  | commissioning =>
      change (d.commission s).outcome.toOption = (s.baudrate.toOption.map _).map d.take
      rw [outcome_commission]
      cases s.baudrate <;> rfl
  | dummyUsage =>
      change (d.addDummies s).outcome.toOption = some _
      rw [outcome_addDummies]
      refine congrArg some ?_
      have hobjects : (dummies s).foldl (fun d i => d.insert (.plain (dummy i))) d =
          d.insertObjects ((dummies s).map fun i => .plain (dummy i)) := by
        rw [insertObjects, List.foldl_map]
      rw [hobjects]
      unfold take
      rw [Option.none_or, ← d.bitrate_insertObjects]
  | object index =>
      change (d.addObject sheet s index).outcome.toOption = (Option.map _ _).map d.take
      rw [outcome_addObject]
      unfold Report.result?
      cases (sheet.object s index d.nodeId).outcome <;> rfl
  | member index subindex | nameList index | other => rfl

theorem bare_take_congr {d e : Dictionary} (h : d.bare = e.bare) (c : Contribution) :
    (d.take c).bare = (e.take c).bare := by
  have hobjects := congrArg Dictionary.objects (bare_insertObjects_congr h c.objects)
  have hbitrate : d.bitrate = e.bitrate := (congrArg Dictionary.bitrate h :)
  have hnode : d.nodeId = e.nodeId := (congrArg Dictionary.nodeId h :)
  refine bare_ext hobjects ?_ ?_
  · exact congrArg (c.bitrate.or ·) hbitrate
  · simpa [take] using hnode

/-- Contributions with different objects, one of which sets no bitrate, may be taken over in either
order. -/
theorem take_comm (d : Dictionary) {c e : Contribution}
    (hobjects : ∀ o ∈ c.objects, ∀ p ∈ e.objects, o.index ≠ p.index)
    (hbitrate : c.bitrate = none ∨ e.bitrate = none) :
    ((d.take c).take e).bare = ((d.take e).take c).bare := by
  have hcomm := congrArg Dictionary.objects (d.bare_insertObjects_comm hobjects)
  refine bare_ext ?_ ?_ ?_
  · simp only [take, insertObjects_withBitrate]
    exact hcomm
  · rcases hbitrate with h | h <;> simp [take, h]
  · simp [take]

/-! ### The later runs -/

/-- Adds members to the object at an index, if there is one and the members can be told. -/
def amend (d : Dictionary) (index : UInt16) (add : Object → Option (List Variable)) :
    Option Dictionary :=
  (d.find? index).bind fun o => (add o).map (d.insertMembers index)

theorem result?_addMember (d : Dictionary) (sheet : Sheet) (s : Section) (a : Address) :
    (d.addMember sheet s a).result? =
      d.amend a.index fun o => (sheet.variable s a d.nodeId).result?.map o.only := by
  unfold Report.result? amend
  rw [outcome_addMember, get_index]
  cases (sheet.variable s a d.nodeId).outcome <;> cases d.find? a.index <;> rfl

theorem result?_addNames (d : Dictionary) (s : Section) (index : UInt16) :
    (d.addNames s index).result? =
      d.amend index fun o => s.nameCount.toOption.bind fun n => (o.named s n).toOption := by
  unfold Report.result? amend
  rw [outcome_addNames, get_index]
  cases s.nameCount with
  | error f => cases d.find? index <;> rfl
  | ok n =>
      cases d.find? index with
      | none => rfl
      | some o =>
          change (Except.map _ (o.named s n)).toOption = (o.named s n).toOption.map _
          cases o.named s n <;> rfl

/-- Members are seen at their own index only. -/
theorem find?_insertMembers_of_ne (d : Dictionary) {i j : UInt16} (h : i ≠ j)
    (vs : List Variable) : (d.insertMembers i vs).find? j = d.find? j := by
  induction vs generalizing d with
  | nil => rfl
  | cons v vs ih =>
      change ((d.insertMember i v).insertMembers i vs).find? j = _
      rw [ih, find?_insertMember]
      cases hj : d.find? j with
      | none => rfl
      | some o =>
          rw [Option.map_some, if_neg]
          rw [index_of_find? hj]
          exact h.symm

theorem bare_amend_congr {d e : Dictionary} (h : d.bare = e.bare) (index : UInt16)
    {add : Object → Option (List Variable)} (hadd : ∀ o, add o.bare = add o) :
    (d.amend index add).map bare = (e.amend index add).map bare := by
  have hfind : (d.find? index).map Object.bare = (e.find? index).map Object.bare := by
    rw [← find?_bare, ← find?_bare, h]
  unfold amend
  cases hd : d.find? index with
  | none =>
      rw [hd, Option.map_none, eq_comm, Option.map_eq_none_iff] at hfind
      rw [hfind]
      rfl
  | some o =>
      rw [hd, Option.map_some, eq_comm, Option.map_eq_some_iff] at hfind
      obtain ⟨p, hp, hpo⟩ := hfind
      have hsame : add o = add p := by
        rw [← hadd o, ← hadd p, hpo]
      rw [hp, Option.bind_some, Option.bind_some, hsame]
      cases add p with
      | none => rfl
      | some vs => exact congrArg some (bare_insertMembers_congr h index vs)

/-- Additions at different indices commute. -/
theorem amend_comm (d : Dictionary) {i j : UInt16} (h : i ≠ j)
    (p q : Object → Option (List Variable)) :
    ((d.amend i p).bind fun e => e.amend j q) = (d.amend j q).bind fun e => e.amend i p := by
  unfold amend
  -- an addition at one index leaves what is found at the other
  cases hi : d.find? i with
  | none =>
      rw [Option.bind_none, Option.bind_none]
      cases hj : d.find? j with
      | none => rfl
      | some o =>
          rw [Option.bind_some]
          cases q o with
          | none => rfl
          | some ws =>
              rw [Option.map_some, Option.bind_some, find?_insertMembers_of_ne d h.symm, hi]
              rfl
  | some o =>
      rw [Option.bind_some]
      cases hj : d.find? j with
      | none =>
          cases p o with
          | none => rfl
          | some vs =>
              rw [Option.map_some, Option.bind_some, find?_insertMembers_of_ne d h, hj]
              rfl
      | some o' =>
          rw [Option.bind_some]
          cases hp : p o <;> cases hq : q o' <;>
            simp [find?_insertMembers_of_ne, h, h.symm, hi, hj, hp, hq, insertMembers_comm d h]

/-- Single members for one group with different subindices commute. -/
theorem bare_amend_only_comm (d : Dictionary) (i : UInt16) {v w : Variable}
    (h : v.subindex ≠ w.subindex) :
    ((d.amend i fun o => some (o.only v)).bind
        fun e => e.amend i fun o => some (o.only w)).map bare =
      ((d.amend i fun o => some (o.only w)).bind
        fun e => e.amend i fun o => some (o.only v)).map bare := by
  unfold amend
  cases hi : d.find? i with
  | none => rfl
  | some o =>
      cases o with
      | plain u =>
          change ((d.find? i).bind fun o => some _).map bare =
            ((d.find? i).bind fun o => some _).map bare
          rw [hi]
          rfl
      | group g =>
          have hv := find?_insertMember_group hi v
          have hw := find?_insertMember_group hi w
          change (((d.insertMember i v).find? i).bind fun o => some _).map bare =
            (((d.insertMember i w).find? i).bind fun o => some _).map bare
          rw [hv, hw]
          exact congrArg some (d.bare_insertMember_comm i h)

theorem nodeId_of_amend {d e : Dictionary} {index : UInt16}
    {add : Object → Option (List Variable)} (h : d.amend index add = some e) :
    e.nodeId = d.nodeId := by
  obtain ⟨o, -, h⟩ := Option.bind_eq_some_iff.1 h
  obtain ⟨vs, -, rfl⟩ := Option.map_eq_some_iff.1 h
  exact d.nodeId_insertMembers index vs

/-- What follows on an addition may be told for the node before it. -/
theorem amend_bind_nodeId (d : Dictionary) (index : UInt16)
    (add : Object → Option (List Variable)) (k : Option UInt8 → Dictionary → Option Dictionary) :
    ((d.amend index add).bind fun e => k e.nodeId e) = (d.amend index add).bind (k d.nodeId) := by
  cases h : d.amend index add with
  | none => rfl
  | some e => rw [Option.bind_some, Option.bind_some, nodeId_of_amend h]

end Dictionary

/-! ### Whole runs -/

/-- Two sections, each with its heading, are about different things. -/
structure Section.Apart (x y : Section × Heading) : Prop where
  headings : x.2 = y.2 → x.2 = .other
  dummies : ∀ i, x.2 = .dummyUsage → y.2 = .object i → i.toNat ∉ Dictionary.dummies x.1

theorem Dictionary.index_dummy {s : Section} {i : Nat} (h : i ∈ dummies s) :
    (dummy i).index.toNat = i := by
  have hrange : i ∈ [1, 2, 3, 4, 5, 6, 7] := List.mem_of_mem_filter h
  have hlt : i < UInt16.size := by
    change i < 65536
    simp only [List.mem_cons, List.not_mem_nil, or_false] at hrange
    omega
  exact UInt16.toNat_ofNat_of_lt' hlt

namespace Sheet

variable {sheet : Sheet} {node : Option UInt8} {x y : Section × Heading} {c e : Contribution}

/-- An object that a section adds stands at the index of the section, or is a dummy. -/
theorem index_of_contribution (h : sheet.contribution node x = some c) :
    ∀ o ∈ c.objects, x.2 = .object o.index ∨
      x.2 = .dummyUsage ∧ o.index.toNat ∈ Dictionary.dummies x.1 := by
  obtain ⟨s, heading⟩ := x
  intro o ho
  cases heading with
  | commissioning =>
      obtain ⟨b, -, rfl⟩ := Option.map_eq_some_iff.1 h
      cases ho
  | dummyUsage =>
      cases h
      obtain ⟨i, hi, rfl⟩ := List.mem_map.1 ho
      refine .inr ⟨rfl, ?_⟩
      change (Dictionary.dummy i).index.toNat ∈ _
      rw [Dictionary.index_dummy hi]
      exact hi
  | object index =>
      obtain ⟨p, hp, rfl⟩ := Option.map_eq_some_iff.1 h
      rw [List.mem_singleton.1 ho]
      rw [index_object (Report.result?_eq_some_iff.1 hp)]
      exact .inl rfl
  | member index subindex | nameList index | other =>
      cases h
      cases ho

theorem bitrate_of_contribution (h : sheet.contribution node x = some c)
    (hb : c.bitrate ≠ none) : x.2 = .commissioning := by
  obtain ⟨s, heading⟩ := x
  cases heading with
  | commissioning => rfl
  | object index =>
      obtain ⟨p, hp, rfl⟩ := Option.map_eq_some_iff.1 h
      exact absurd rfl hb
  | dummyUsage | member index subindex | nameList index | other =>
      cases h
      exact absurd rfl hb

/-- Sections about different things add objects at different indices, and not both of them set the
bitrate. -/
theorem contributions_apart (hxy : Section.Apart x y) (hyx : Section.Apart y x)
    (hc : sheet.contribution node x = some c) (he : sheet.contribution node y = some e) :
    (∀ o ∈ c.objects, ∀ p ∈ e.objects, o.index ≠ p.index) ∧
      (c.bitrate = none ∨ e.bitrate = none) := by
  constructor
  · intro o ho p hp hindex
    have hother : ∀ h : Heading, x.2 = h → y.2 = h → h = .other := fun h hx hy =>
      hx ▸ hxy.headings (hx.trans hy.symm)
    rcases index_of_contribution hc o ho with hx | ⟨hx, hox⟩ <;>
      rcases index_of_contribution he p hp with hy | ⟨hy, hpy⟩
    · cases hother _ hx (hindex ▸ hy)
    · exact hyx.dummies o.index hy hx (hindex ▸ hpy)
    · exact hxy.dummies p.index hx hy (hindex ▸ hox)
    · cases hother _ hx hy
  · by_contra hne
    rw [not_or] at hne
    have hx := bitrate_of_contribution hc hne.1
    have hy := bitrate_of_contribution he hne.2
    have := hxy.headings (hx.trans hy.symm)
    rw [hx] at this
    cases this

end Sheet

namespace Dictionary

variable {sheet : Sheet} {x y : Section × Heading}

theorem firstPass_congr {d e : Dictionary} (h : d.bare = e.bare) :
    (firstPass sheet d x).result?.map bare = (firstPass sheet e x).result?.map bare := by
  have hnode : d.nodeId = e.nodeId := (congrArg Dictionary.nodeId h :)
  rw [result?_firstPass, result?_firstPass, hnode]
  cases sheet.contribution e.nodeId x with
  | none => rfl
  | some c => exact congrArg some (bare_take_congr h c)

/-- In the first run, sections about different things commute. -/
theorem firstPass_comm (d : Dictionary) (hxy : Section.Apart x y) (hyx : Section.Apart y x) :
    ((firstPass sheet d x).result?.bind fun e => (firstPass sheet e y).result?).map bare =
      ((firstPass sheet d y).result?.bind fun e => (firstPass sheet e x).result?).map bare := by
  have hnode : ∀ c : Contribution, (d.take c).nodeId = d.nodeId := fun c =>
    d.nodeId_insertObjects c.objects
  simp only [result?_firstPass]
  cases hc : sheet.contribution d.nodeId x with
  | none => cases he : sheet.contribution d.nodeId y <;> simp [hnode, hc]
  | some c =>
      cases he : sheet.contribution d.nodeId y with
      | none => simp [hnode, he]
      | some e =>
          obtain ⟨hobjects, hbitrate⟩ := Sheet.contributions_apart hxy hyx hc he
          simp only [Option.map_some, Option.bind_some, hnode, hc, he]
          exact congrArg some (d.take_comm hobjects hbitrate)

theorem secondPass_congr {d e : Dictionary} (h : d.bare = e.bare) :
    (secondPass sheet d x).result?.map bare = (secondPass sheet e x).result?.map bare := by
  have hnode : d.nodeId = e.nodeId := (congrArg Dictionary.nodeId h :)
  obtain ⟨s, heading⟩ := x
  cases heading with
  | member index subindex =>
      change (d.addMember sheet s _).result?.map bare = (e.addMember sheet s _).result?.map bare
      rw [result?_addMember, result?_addMember, hnode]
      refine bare_amend_congr h index fun o => ?_
      have honly : o.bare.only = o.only := funext fun v => o.only_bare v
      rw [honly]
  | commissioning | dummyUsage | object index | nameList index | other => exact congrArg some h

/-- Members at one address apart from another one, entered in either order. -/
theorem addMember_comm (d : Dictionary) (s t : Section) {a b : Address} (h : a ≠ b) :
    ((d.addMember sheet s a).result?.bind fun e => (e.addMember sheet t b).result?).map bare =
      ((d.addMember sheet t b).result?.bind fun e => (e.addMember sheet s a).result?).map bare := by
  simp only [result?_addMember]
  -- the node is the same before and after, so each section describes the same member either way
  rw [amend_bind_nodeId d a.index _ fun node e =>
      e.amend b.index fun o => (sheet.variable t b node).result?.map o.only,
    amend_bind_nodeId d b.index _ fun node e =>
      e.amend a.index fun o => (sheet.variable s a node).result?.map o.only]
  by_cases hindex : a.index = b.index
  · have hsubindex : a.subindex ≠ b.subindex := by
      intro hsub
      cases a
      cases b
      exact h (congrArg₂ Address.mk hindex hsub)
    rw [hindex]
    have hnone : ∀ (o : Option Dictionary) (i : UInt16),
        (o.bind fun e => e.amend i fun _ => none) = none := by
      intro o i
      simp [amend]
    cases hv : (sheet.variable s a d.nodeId).result? with
    | none =>
        simp only [Option.map_none, hnone]
        simp [amend]
    | some v =>
        cases hw : (sheet.variable t b d.nodeId).result? with
        | none =>
            simp only [Option.map_none, hnone]
            simp [amend]
        | some w =>
            have hv := Sheet.typed_variable (Report.result?_eq_some_iff.1 hv)
            have hw := Sheet.typed_variable (Report.result?_eq_some_iff.1 hw)
            refine d.bare_amend_only_comm b.index ?_
            rw [hv.subindex, hw.subindex]
            exact hsubindex
  · rw [amend_comm d hindex]

/-- The second run is about sections of members only. -/
theorem result?_secondPass_of_ne_member (h : ∀ i j, x.2 ≠ .member i j) (d : Dictionary) :
    (secondPass sheet d x).result? = some d := by
  obtain ⟨s, heading⟩ := x
  cases heading with
  | member i j => exact absurd rfl (h i j)
  | commissioning | dummyUsage | object index | nameList index | other => rfl

/-- In the second run, sections about different things commute. -/
theorem secondPass_comm (d : Dictionary) (h : Section.Apart x y) :
    ((secondPass sheet d x).result?.bind fun e => (secondPass sheet e y).result?).map bare =
      ((secondPass sheet d y).result?.bind fun e => (secondPass sheet e x).result?).map bare := by
  by_cases hx : ∀ i j, x.2 ≠ .member i j
  · rw [bind_comm_of_skip (result?_secondPass_of_ne_member hx)]
  by_cases hy : ∀ i j, y.2 ≠ .member i j
  · rw [bind_comm_of_skip (result?_secondPass_of_ne_member hy)]
  obtain ⟨s, hs⟩ := x
  obtain ⟨t, ht⟩ := y
  push Not at hx hy
  obtain ⟨i, j, rfl⟩ := hx
  obtain ⟨i', j', rfl⟩ := hy
  refine addMember_comm d s t fun ha => ?_
  cases ha
  cases h.headings rfl

theorem thirdPass_congr {d e : Dictionary} (h : d.bare = e.bare) :
    (thirdPass d x).result?.map bare = (thirdPass e x).result?.map bare := by
  obtain ⟨s, heading⟩ := x
  cases heading with
  | nameList index =>
      change (d.addNames s index).result?.map bare = (e.addNames s index).result?.map bare
      rw [result?_addNames, result?_addNames]
      refine bare_amend_congr h index fun o => ?_
      simp only [Object.named_bare]
  | commissioning | dummyUsage | object index | member index subindex | other =>
      exact congrArg some h

/-- The third run is about sections with lists of names only. -/
theorem result?_thirdPass_of_ne_nameList (h : ∀ i, x.2 ≠ .nameList i) (d : Dictionary) :
    (thirdPass d x).result? = some d := by
  obtain ⟨s, heading⟩ := x
  cases heading with
  | nameList i => exact absurd rfl (h i)
  | commissioning | dummyUsage | object index | member index subindex | other => rfl

/-- In the third run, sections about different things commute. -/
theorem thirdPass_comm (d : Dictionary) (h : Section.Apart x y) :
    ((thirdPass d x).result?.bind fun e => (thirdPass e y).result?).map bare =
      ((thirdPass d y).result?.bind fun e => (thirdPass e x).result?).map bare := by
  by_cases hx : ∀ i, x.2 ≠ .nameList i
  · rw [bind_comm_of_skip (result?_thirdPass_of_ne_nameList hx)]
  by_cases hy : ∀ i, y.2 ≠ .nameList i
  · rw [bind_comm_of_skip (result?_thirdPass_of_ne_nameList hy)]
  obtain ⟨s, hs⟩ := x
  obtain ⟨t, ht⟩ := y
  push Not at hx hy
  obtain ⟨i, rfl⟩ := hx
  obtain ⟨j, rfl⟩ := hy
  have hne : i ≠ j := by
    rintro rfl
    cases h.headings rfl
  change ((d.addNames s i).result?.bind fun e => (e.addNames t j).result?).map bare =
    ((d.addNames t j).result?.bind fun e => (e.addNames s i).result?).map bare
  simp only [result?_addNames]
  rw [amend_comm d hne]

end Dictionary

end DataSheet
