/-
**What a list of names adds, and what it leaves alone.**

A list of names makes every member that it names like the first one of the group, which may itself
be among them.  The members are entered into the very group from which the first one was taken, one
after the other, and a name that is listed twice is taken over from one member to the next.  This
module says what is left of the group and of the dictionary after that, and that nothing at all has
changed if the list cannot be taken over.

Main definitions:

* `Section.Counts`, `Section.Names` — the number of names in a list, and the name of one member;
* `Edit`, `Edit.enterNames` — changes of a dictionary in place, and a list of names taken over in
  this way, with the group looked up anew for each member;
* `Dictionary.Named` — what a list of names makes of a dictionary;
* `Dictionary.Unlistable` — why a list of names is not taken over.

Main results:

* `Registry.holder?_foldl_insert` — **of several items entered in order the last with a name holds
  it**;
* `Dictionary.edit_enterNames` — entering names in place stops before the first one or not at all;
* `name_lists_expand` — **a list of names adds what it says and nothing else, or it fails and leaves
  the dictionary as it was**.
-/

import DataSheet.Proofs.Acceptance
import DataSheet.Proofs.Sessions
import DataSheet.Proofs.ShortForm

set_option relaxedAutoImplicit false
set_option autoImplicit false

namespace DataSheet

/-! ### Lists of names -/

section Lists

variable (s : Section) (count : UInt8)

/-- The section says how many members its list of names may reach; none if it does not say. -/
def Section.Counts : Prop :=
  match s.entry? "NrOfEntries" with
  | none => count = 0
  | some e => e.integer? = some (count.toNat : Int)

/-- The section lists a name for the member at a subindex, in a list that reaches up to `count`. -/
def Section.Names (k : UInt8) (name : String) : Prop :=
  1 ≤ k.toNat ∧ k.toNat ≤ count.toNat ∧ s.value? (Text.decimal 1 k.toNat) = some name

variable {s count}

theorem Section.nameCount_eq_ok_iff : s.nameCount = .ok count ↔ s.Counts count := by
  unfold nameCount Counts
  cases s.entry? "NrOfEntries" with
  | none => exact ⟨fun h => (Except.ok.inj h).symm, fun h => congrArg Except.ok h.symm⟩
  | some e =>
      dsimp only
      rw [Entry.integer?, ← Literal.count?_eq_some_iff, Entry.count]
      cases Literal.count? e.value.toList with
      | none => exact ⟨nofun, nofun⟩
      | some n => exact ⟨fun h => congrArg some (Except.ok.inj h),
          fun h => congrArg Except.ok (Option.some.inj h)⟩

/-- A list with a bad count fails for it. -/
theorem Section.nameCount_eq_error_iff {f : Fault} :
    s.nameCount = .error f ↔ s.BadCount "NrOfEntries" .nameCount f := by
  have hfails := s.failsFor_nameCount
  cases hc : s.nameCount with
  | ok count =>
      rw [hc] at hfails
      exact ⟨nofun, fun hbad => absurd hbad (hfails f)⟩
  | error f' =>
      rw [hc] at hfails
      constructor
      · rintro ⟨⟩
        exact hfails
      · rintro ⟨e, he, -, rfl⟩
        obtain ⟨e', he', -, rfl⟩ := hfails
        cases he.symm.trans he'
        rfl

/-- Only the names up to the count are read, each under its number in plain decimal digits. -/
theorem Section.listedNames_congr {s t : Section}
    (h : ∀ k name, t.Names count k name ↔ s.Names count k name) :
    Dictionary.listedNames t count = Dictionary.listedNames s count := by
  unfold Dictionary.listedNames
  refine List.filterMap_congr fun j hj => ?_
  have hj := List.mem_range.1 hj
  have hcount := count.toNat_lt
  have hsize : j + 1 < UInt8.size := by
    change j + 1 < 256
    omega
  have hnumber : (UInt8.ofNat (j + 1)).toNat = j + 1 := UInt8.toNat_ofNat_of_lt' hsize
  refine congrArg (Option.map _) (Option.ext fun name => ?_)
  have hnames := h (UInt8.ofNat (j + 1)) name
  unfold Names at hnames
  rw [hnumber] at hnames
  have hle : j + 1 ≤ count.toNat := hj
  have hone : 1 ≤ j + 1 := Nat.le_add_left 1 j
  simpa only [hone, hle, true_and] using hnames

end Lists

/-! ### Items entered in order -/

section InOrder

open Registered (key name)

variable {κ α : Type} [DecidableEq κ] [Registered κ α] [LT κ] [DecidableLT κ]

/-- Of a list that has items with a property, one is the last. -/
theorem exists_isLast {β : Type} {p : β → Prop} {l : List β} (h : ∃ a ∈ l, p a) :
    ∃ a, IsLast p l a := by
  induction l with
  | nil =>
      obtain ⟨a, ha, -⟩ := h
      cases ha
  | cons b l ih =>
      by_cases hl : ∃ a ∈ l, p a
      · obtain ⟨a, ha⟩ := ih hl
        exact ⟨a, ha.cons b⟩
      · obtain ⟨a, ha, hpa⟩ := h
        rcases List.mem_cons.1 ha with rfl | ha
        · exact ⟨a, [], l, rfl, hpa, fun c hc hpc => hl ⟨c, hc, hpc⟩⟩
        · exact absurd ⟨a, ha, hpa⟩ hl

/-- In a list in order the last item with a property stands behind all others that have it. -/
theorem IsLast.eq_or_before {β : Type} {p : β → Prop} {R : β → β → Prop} {l : List β} {a b : β}
    (h : IsLast p l a) (hl : l.Pairwise R) (hb : b ∈ l) (hpb : p b) : b = a ∨ R b a := by
  obtain ⟨before, after, rfl, -, hafter⟩ := h
  rcases List.mem_append.1 hb with hb | hb
  · exact .inr ((List.pairwise_append.1 hl).2.2 b hb a List.mem_cons_self)
  · rcases List.mem_cons.1 hb with rfl | hb
    · exact .inl rfl
    · exact absurd hpb (hafter b hb)

/-- A name stays with its key while items with other keys and names are entered. -/
theorem Registry.holder?_foldl_insert_of_ne {r : Registry κ α} {n : String} {k : κ}
    (h : r.holder? n = some k) {as : List α} (has : ∀ a ∈ as, name a ≠ n ∧ key a ≠ k) :
    (as.foldl insert r).holder? n = some k := by
  induction as generalizing r with
  | nil => exact h
  | cons a as ih =>
      obtain ⟨hname, hkey⟩ := has a List.mem_cons_self
      refine ih ?_ fun b hb => has b (List.mem_cons_of_mem a hb)
      -- the item replaced does not hold the name, for that leads to another key
      have hother : r.nameOf? (key a) ≠ some n := by
        intro ho
        have hheld := (nameOf?_eq_some_iff.1 ho).2
        rw [h, Option.some.injEq] at hheld
        exact hkey hheld.symm
      rw [holder?_insert, if_neg hname, if_neg hother, h]

/-- **Of several items entered in order the last with a name holds it**, whatever held it before. -/
theorem Registry.holder?_foldl_insert (r : Registry κ α) {as : List α}
    (distinct : as.Pairwise fun a b => key a ≠ key b) {n : String} {a : α}
    (h : IsLast (fun a => name a = n) as a) : (as.foldl insert r).holder? n = some (key a) := by
  obtain ⟨before, after, rfl, ha, hafter⟩ := h
  rw [List.foldl_append, List.foldl_cons]
  refine holder?_foldl_insert_of_ne ?_ fun b hb => ⟨hafter b hb, ?_⟩
  · rw [holder?_insert, if_pos ha]
  · have hrest := (List.pairwise_append.1 distinct).2.1
    exact ((List.pairwise_cons.1 hrest).1 b hb).symm

end InOrder

/-! ### Changes in place -/

/-- A change of a dictionary in place, which may stop before its end. -/
abbrev Edit : Type → Type := ExceptT Fault (StateM Dictionary)

/-- What a change in place gives, and what it leaves. -/
def Dictionary.edit {α : Type} (d : Dictionary) (change : Edit α) : Except Fault α × Dictionary :=
  Id.run (change.run.run d)

/-- What is left of a dictionary after a step: what the step makes of it, or else the dictionary as
it was. -/
def Dictionary.leave (d : Dictionary) : Except Fault Dictionary → Except Fault Unit × Dictionary
  | .ok d' => (.ok (), d')
  | .error f => (.error f, d)

namespace Edit

/-- Enters a member into the object at an index, which must be there. -/
def enter (index : UInt16) (v : Variable) : Edit Unit := do
  match (← get).get (.index index) with
  | .error f => throw f
  | .ok _ => modify fun d => d.insertMember index v

/-- Takes over one of the names of a list, if the list has it. -/
def enterName (s : Section) (index : UInt16) (template : Variable) (k : Nat) : Edit Unit :=
  match s.value? (Text.decimal 1 k) with
  | none => pure ()
  | some name => enter index (Dictionary.namedMember template (UInt8.ofNat k) name)

/-- Takes over a list of names.  The first member is copied once, before others are entered. -/
def enterNames (s : Section) (index : UInt16) : Edit Unit := do
  let count ← match s.nameCount with
    | .error f => throw f
    | .ok count => pure count
  match (← get).get (.index index) with
  | .error f => throw f
  | .ok (.plain _) => pure ()
  | .ok (.group g) =>
    match g.element Group.templateSubindex.toUInt16 with
    | .error f => throw f
    | .ok template =>
      forM (List.range count.toNat) fun k => enterName s index template.get (k + 1)

section Runs

variable {d : Dictionary} {i : UInt16} {g : Group}

/-- A change goes on from where its first step has ended. -/
theorem edit_bind {α β : Type} {x : Edit α} {a : α} {d' : Dictionary} (h : d.edit x = (.ok a, d'))
    (k : α → Edit β) : d.edit (x >>= k) = d'.edit (k a) := by
  unfold Dictionary.edit at h ⊢
  rw [ExceptT.run_bind, StateT.run_bind]
  generalize x.run.run d = r at h ⊢
  cases h
  rfl

theorem edit_get : d.edit (get : Edit Dictionary) = (.ok d, d) := rfl

theorem edit_enter {o : Object} (h : d.find? i = some o) (v : Variable) :
    d.edit (enter i v) = (.ok (), d.insertMember i v) := by
  unfold enter
  rw [edit_bind edit_get, Dictionary.get_index_eq_ok_iff.2 h]
  rfl

/-- The names of a list are all entered, since the group stays where it is. -/
theorem edit_forM_enterName (h : d.find? i = some (.group g)) (s : Section) (template : Variable)
    (ks : List Nat) :
    d.edit (forM ks fun k => enterName s i template (k + 1)) =
      (.ok (), d.insertMembers i ((ks.filterMap fun k =>
        (s.value? (Text.decimal 1 (k + 1))).map fun name => (UInt8.ofNat (k + 1), name)).map
          fun x => Dictionary.namedMember template x.1 x.2)) := by
  induction ks generalizing d g with
  | nil => rfl
  | cons k ks ih =>
      rw [List.forM_cons]
      cases hname : s.value? (Text.decimal 1 (k + 1)) with
      | none =>
          have hskip : d.edit (enterName s i template (k + 1)) = (.ok (), d) := by
            unfold enterName
            rw [hname]
            rfl
          rw [edit_bind hskip, ih h, List.filterMap_cons, hname]
          rfl
      | some name =>
          have hstep : d.edit (enterName s i template (k + 1)) = (.ok (), d.insertMember i
              (Dictionary.namedMember template (UInt8.ofNat (k + 1)) name)) := by
            unfold enterName
            rw [hname]
            exact edit_enter h _
          rw [edit_bind hstep, ih (Dictionary.find?_insertMember_group h _), List.filterMap_cons,
            hname]
          rfl

/-- **A list of names that is taken over in place** leaves what it adds, or else the dictionary as
it was: all that may fail comes before the first change. -/
theorem edit_enterNames (d : Dictionary) (s : Section) (i : UInt16) :
    d.edit (enterNames s i) = d.leave (d.addNames s i).outcome := by
  rw [Dictionary.outcome_addNames]
  unfold enterNames
  cases s.nameCount with
  | error f => rfl
  | ok count =>
      have hcount : d.edit (pure count : Edit UInt8) = (.ok count, d) := rfl
      rw [edit_bind hcount, edit_bind edit_get]
      change _ = d.leave (d.get (.index i) >>= _)
      cases ho : d.get (.index i) with
      | error f => rfl
      | ok o =>
          cases o with
          | plain v => rfl
          | group g =>
              change _ = d.leave (Except.map _ (Except.map _ (g.element _)))
              dsimp only
              cases g.element Group.templateSubindex.toUInt16 with
              | error f => rfl
              | ok template =>
                  exact edit_forM_enterName (Dictionary.get_index_eq_ok_iff.1 ho) s template.get _

end Runs

end Edit

namespace Dictionary

/-! ### What a list of names leaves -/

/-- What a list of names makes of a dictionary that has the group `g` at an index, with the first
member `t`: the group has become `g'`. -/
structure Named (d : Dictionary) (i : UInt16) (g : Group) (t : Variable) (s : Section)
    (count : UInt8) (d' : Dictionary) (g' : Group) : Prop where
  own : d'.get (.index i) = .ok (.group g')
  heading : (g'.kind, g'.index, g'.name, g'.description) =
    (g.kind, g.index, g.name, g.description)
  /-- A member that is listed is like the first one was, the first one not excepted. -/
  listed : ∀ k name, s.Names count k name →
    g'.member? k = some { t with name := name, subindex := k }
  unlisted : ∀ k, (∀ name, ¬ s.Names count k name) → g'.member? k = g.member? k
  /-- A name that is listed leads to the highest subindex for which it is. -/
  called : ∀ k name, s.Names count k name → ∃ top, s.Names count top name ∧
    (∀ l, s.Names count l name → l ≤ top) ∧
    g'.memberNamed name = .ok { t with name := name, subindex := top }
  others : ∀ j, j ≠ i → d'.get (.index j) = d.get (.index j)
  indices : d'.objects.map Object.index = d.objects.map Object.index
  /-- The name of an object still leads to it, and that of the group to what has become of it. -/
  objectsNamed : ∀ n, d'.get (.name n) =
    (d.get (.name n)).map fun o => if o.index = i then .group g' else o
  settings : d'.bitrate = d.bitrate ∧ d'.nodeId = d.nodeId
  assembled : d.Assembled → d'.Assembled

/-- Why a list of names is not taken over. -/
inductive Unlistable (d : Dictionary) (s : Section) (i : UInt16) : Fault → Prop
  | count {f : Fault} (bad : s.BadCount "NrOfEntries" .nameCount f) : Unlistable d s i f
  | object {count : UInt8} (counts : s.Counts count) (missing : d.find? i = none) :
      Unlistable d s i (.notFound (.index i))
  | template {count : UInt8} {g : Group} (counts : s.Counts count)
      (group : d.find? i = some (.group g)) (missing : g.member? 1 = none) :
      Unlistable d s i (g.kind.untemplated i)

variable {d : Dictionary} {i : UInt16} {g : Group} {t : Variable} {s : Section} {count : UInt8}

/-- The members that a list of names adds to a group with the first member `t`. -/
def namedMembers (t : Variable) (s : Section) (count : UInt8) : List Variable :=
  (listedNames s count).map fun x => namedMember t x.1 x.2

theorem mem_namedMembers {v : Variable} :
    v ∈ namedMembers t s count ↔
      s.Names count v.subindex v.name ∧ v = { t with name := v.name, subindex := v.subindex } := by
  unfold namedMembers
  rw [List.mem_map]
  constructor
  · rintro ⟨⟨k, name⟩, hk, rfl⟩
    exact ⟨mem_listedNames.1 hk, rfl⟩
  · rintro ⟨hnames, hv⟩
    exact ⟨(v.subindex, v.name), mem_listedNames.2 hnames, hv.symm⟩

theorem mem_namedMembers_of_names {k : UInt8} {name : String} (h : s.Names count k name) :
    { t with name := name, subindex := k } ∈ namedMembers t s count :=
  mem_namedMembers.2 ⟨h, rfl⟩

theorem ascends_namedMembers (t : Variable) (s : Section) (count : UInt8) :
    (namedMembers t s count).Pairwise fun v w => v.subindex < w.subindex :=
  List.pairwise_map.2 (ascends_listedNames s count)

theorem member?_foldl_namedMembers_of_names {k : UInt8} {name : String}
    (h : s.Names count k name) (g : Group) :
    ((namedMembers t s count).foldl Group.insert g).member? k =
      some { t with name := name, subindex := k } := by
  rw [Group.member?, Group.members_foldl_insert]
  rcases Registry.find?_foldl_insert g.members (namedMembers t s count) k with
    ⟨v, hv, rfl, hfound⟩ | ⟨hnone, -⟩
  · obtain ⟨hnames, hv⟩ := mem_namedMembers.1 hv
    have hname : v.name = name := Option.some.inj (hnames.2.2.symm.trans h.2.2)
    rw [hfound, ← hname]
    exact congrArg some hv
  · exact absurd rfl (hnone _ (mem_namedMembers_of_names h))

theorem member?_foldl_namedMembers_of_not_names {k : UInt8} (h : ∀ name, ¬ s.Names count k name)
    (g : Group) : ((namedMembers t s count).foldl Group.insert g).member? k = g.member? k := by
  rw [Group.member?, Group.members_foldl_insert]
  rcases Registry.find?_foldl_insert g.members (namedMembers t s count) k with
    ⟨v, hv, rfl, -⟩ | ⟨-, hsame⟩
  · exact absurd (mem_namedMembers.1 hv).1 (h v.name)
  · exact hsame

/-- A name that is listed leads to the highest subindex for which it is. -/
theorem memberNamed_foldl_namedMembers {k : UInt8} {name : String} (h : s.Names count k name)
    (g : Group) : ∃ top, s.Names count top name ∧ (∀ l, s.Names count l name → l ≤ top) ∧
      ((namedMembers t s count).foldl Group.insert g).memberNamed name =
        .ok { t with name := name, subindex := top } := by
  obtain ⟨v, hv⟩ := exists_isLast (p := fun v : Variable => v.name = name)
    ⟨_, mem_namedMembers_of_names (t := t) h, rfl⟩
  have hascends := ascends_namedMembers t s count
  have hname : v.name = name := hv.holds
  have hnames : s.Names count v.subindex name := hname ▸ (mem_namedMembers.1 hv.mem).1
  refine ⟨v.subindex, hnames, fun l hl => ?_, ?_⟩
  · rcases hv.eq_or_before hascends (mem_namedMembers_of_names hl) rfl with heq | hlt
    · exact UInt8.le_of_eq (congrArg Variable.subindex heq)
    · exact UInt8.le_of_lt hlt
  · have hholder : ((namedMembers t s count).foldl Registry.insert g.members).holder? name =
        some v.subindex :=
      Registry.holder?_foldl_insert g.members
        (hascends.imp fun {v w} hlt => UInt8.ne_of_lt hlt) hv
    have hfound := member?_foldl_namedMembers_of_names (t := t) hnames g
    rw [Group.member?, Group.members_foldl_insert] at hfound
    rw [Group.memberNamed, Group.members_foldl_insert, Registry.findByName?, hholder,
      Option.bind_some, hfound]

/-- Entering members leaves the names of objects where they lead. -/
theorem holder?_insertMembers (d : Dictionary) (i : UInt16) (vs : List Variable) (n : String) :
    (d.insertMembers i vs).registry.holder? n = d.registry.holder? n := by
  induction vs generalizing d with
  | nil => rfl
  | cons v vs ih => exact ih (d.insertMember i v)

theorem indices_insertMembers (d : Dictionary) (i : UInt16) (vs : List Variable) :
    (d.insertMembers i vs).objects.map Object.index = d.objects.map Object.index := by
  induction vs generalizing d with
  | nil => rfl
  | cons v vs ih =>
      refine (ih (d.insertMember i v)).trans ?_
      rw [insertMember_eq_modify]
      refine (List.map_map ..).trans (List.map_congr_left fun o _ => ?_)
      exact Registry.key_ite (fun o => Object.index_attach o v) i o

/-- The name of an object still leads to it, and that of the group to what has become of it. -/
theorem get_name_insertMembers {g' : Group} (h : d.find? i = some (.group g)) {vs : List Variable}
    (h' : (d.insertMembers i vs).find? i = some (.group g')) (n : String) :
    (d.insertMembers i vs).get (.name n) =
      (d.get (.name n)).map fun o => if o.index = i then .group g' else o := by
  have hfind : ∀ j, (d.insertMembers i vs).find? j =
      (d.find? j).map fun o => if o.index = i then .group g' else o := by
    intro j
    by_cases hij : i = j
    · subst hij
      rw [h', h]
      exact congrArg some (if_pos (index_of_find? h)).symm
    · rw [find?_insertMembers_of_ne d hij]
      cases hj : d.find? j with
      | none => rfl
      | some o =>
          have hne : o.index ≠ i := fun ho => hij (ho.symm.trans (index_of_find? hj))
          exact congrArg some (if_neg hne).symm
  have hname : (d.insertMembers i vs).registry.findByName? n =
      (d.registry.findByName? n).map fun o => if o.index = i then .group g' else o := by
    rw [Registry.findByName?, Registry.findByName?, holder?_insertMembers]
    cases d.registry.holder? n with
    | none => rfl
    | some j => exact hfind j
  rw [get_name, get_name, Registry.answer, Registry.answer, hname]
  cases d.registry.findByName? n <;> rfl

theorem heading_foldl_insert (g : Group) (vs : List Variable) :
    ((vs.foldl Group.insert g).kind, (vs.foldl Group.insert g).index,
        (vs.foldl Group.insert g).name, (vs.foldl Group.insert g).description) =
      (g.kind, g.index, g.name, g.description) := by
  induction vs generalizing g with
  | nil => rfl
  | cons v vs ih => exact ih (g.insert v)

/-- What a list of names leaves of a dictionary with a group at its index. -/
theorem named_insertMembers (h : d.find? i = some (.group g)) (s : Section) (count : UInt8)
    (t : Variable) :
    d.Named i g t s count (d.insertMembers i (namedMembers t s count))
      ((namedMembers t s count).foldl Group.insert g) := by
  have hown := find?_insertMembers_group h (namedMembers t s count)
  exact {
    own := get_index_eq_ok_iff.2 hown
    heading := heading_foldl_insert g _
    listed := fun k name hk => member?_foldl_namedMembers_of_names hk g
    unlisted := fun k hk => member?_foldl_namedMembers_of_not_names hk g
    called := fun k name hk => memberNamed_foldl_namedMembers hk g
    others := fun j hj => by
      rw [get_index, get_index, find?_insertMembers_of_ne d (Ne.symm hj)]
    indices := indices_insertMembers d i _
    objectsNamed := get_name_insertMembers h hown
    settings := ⟨bitrate_insertMembers d i _, nodeId_insertMembers d i _⟩
    assembled := fun hd => hd.insertMembers i _ }

/-- With its first member there, a group takes over any list with a count. -/
theorem outcome_addNames_of_counts (hcount : s.Counts count) (h : d.find? i = some (.group g))
    (ht : g.member? 1 = some t) :
    (d.addNames s i).outcome = .ok (d.insertMembers i (namedMembers t s count)) := by
  refine addNames_eq_ok_iff.2
    ⟨count, .group g, _, Section.nameCount_eq_ok_iff.2 hcount, h, ?_, rfl⟩
  have htemplate : g.template? = some t := ht
  unfold Object.named
  dsimp only
  rw [Group.element_template, htemplate]
  rfl

theorem Unlistable.outcome_addNames {f : Fault} (h : d.Unlistable s i f) :
    (d.addNames s i).outcome = .error f := by
  rw [Dictionary.outcome_addNames]
  cases h with
  | count bad =>
      rw [Section.nameCount_eq_error_iff.2 bad]
      rfl
  | object counts missing =>
      rw [Section.nameCount_eq_ok_iff.2 counts, get_index, missing]
      rfl
  | @template count g counts group missing =>
      have hnone : g.template? = none := missing
      have hindex : g.index = i := index_of_find? group
      rw [Section.nameCount_eq_ok_iff.2 counts, get_index, group]
      change Except.map _ (Except.map _ (g.element Group.templateSubindex.toUInt16)) = _
      rw [Group.element_template, hnone, hindex]
      rfl

/-- Without a count, an object or a first member, a list of names is not taken over. -/
theorem exists_unlistable (h : (¬ ∃ count, s.Counts count) ∨ d.find? i = none ∨
    ∃ g, d.find? i = some (.group g) ∧ g.member? 1 = none) : ∃ f, d.Unlistable s i f := by
  cases hc : s.nameCount with
  | error f => exact ⟨f, .count (Section.nameCount_eq_error_iff.1 hc)⟩
  | ok count =>
      have hcount := Section.nameCount_eq_ok_iff.1 hc
      rcases h with h | h | ⟨g, hg, hnone⟩
      · exact absurd ⟨count, hcount⟩ h
      · exact ⟨_, .object hcount h⟩
      · exact ⟨_, .template hcount hg hnone⟩

end Dictionary

/-- **A list of names adds what it says and nothing else, or it fails and leaves the dictionary as
it was.**  It is taken over in place, with the same result; and entries that are not numbered up to
the count, in plain decimal digits, make no difference to it. -/
theorem name_lists_expand (d : Dictionary) (i : UInt16) (s : Section) :
    (∀ g t count, d.find? i = some (.group g) → g.member? 1 = some t → s.Counts count →
      ∃ d' g', (d.addNames s i).outcome = .ok d' ∧ d.edit (Edit.enterNames s i) = (.ok (), d') ∧
        d.Named i g t s count d' g' ∧
        ∀ s' : Section, s'.Counts count →
          (∀ k name, s'.Names count k name ↔ s.Names count k name) →
          (d.addNames s' i).outcome = .ok d') ∧
    ((¬ ∃ count, s.Counts count) ∨ d.find? i = none ∨
        (∃ g, d.find? i = some (.group g) ∧ g.member? 1 = none) →
      ∃ f, d.Unlistable s i f ∧ (d.addNames s i).outcome = .error f ∧
        d.edit (Edit.enterNames s i) = (.error f, d)) := by
  constructor
  · intro g t count hg ht hcount
    have hadded := Dictionary.outcome_addNames_of_counts hcount hg ht
    refine ⟨_, _, hadded, ?_, Dictionary.named_insertMembers hg s count t,
      fun s' hcount' hsame => ?_⟩
    · rw [Edit.edit_enterNames, hadded]
      rfl
    · rw [Dictionary.outcome_addNames_of_counts hcount' hg ht, Dictionary.namedMembers,
        Section.listedNames_congr hsame]
      rfl
  · intro h
    obtain ⟨f, hf⟩ := Dictionary.exists_unlistable h
    refine ⟨f, hf, hf.outcome_addNames, ?_⟩
    rw [Edit.edit_enterNames, hf.outcome_addNames]
    rfl

/-- An array with a first element that has a value. -/
def sensor : Variable :=
  { Variable.blank "Sensor" 0x3004 1 with
    dataType := some .unsigned8
    defaultValue := some (.unsigned 7) }

/-- The array of the element. -/
def sensors : Group := (Group.empty .array "Sensor" 0x3004).insert sensor

/-- Names for the first and the third element, which are alike, and one that is out of reach. -/
def sensorNames : Section where
  name := "3004Name"
  line := 1
  entries := [Entry.ofLine "1" "Status" 3, Entry.ofLine "3" "Status" 4, Entry.ofLine "4" "Spare" 5,
    Entry.ofLine "NrOfEntries" "3" 2]

theorem name_lists_expand_sensors :
    sensors.member? 1 = some sensor ∧ sensorNames.Counts 3 ∧ sensorNames.Names 3 1 "Status" ∧
      ∃ d' g', (Dictionary.empty.insert (.group sensors)).Named 0x3004 sensors sensor sensorNames 3
        d' g' ∧ g'.member? 1 = some { sensor with name := "Status" } := by
  have hmember : sensors.member? 1 = some sensor := by decide +kernel
  have hcount : sensorNames.Counts 3 := Section.nameCount_eq_ok_iff.1 (by decide +kernel)
  have hname : sensorNames.Names 3 1 "Status" := ⟨by decide, by decide, by decide +kernel⟩
  have hfind : (Dictionary.empty.insert (.group sensors)).find? 0x3004 = some (.group sensors) := by
    decide +kernel
  obtain ⟨d', g', -, -, hnamed, -⟩ :=
    (name_lists_expand _ 0x3004 sensorNames).1 sensors sensor 3 hfind hmember hcount
  exact ⟨hmember, hcount, hname, d', g', hnamed, hnamed.listed 1 "Status" hname⟩

end DataSheet
