/-
**The order of a data sheet does not matter.**

Sections of a data sheet may stand in any order, and so may the entries of each, as long as no two
sections are about the same thing.  Steps about different things commute, so each of the three runs
gives the same in every order; the type definitions that a step looks up are found by name.

Main definitions:

* `Sheet.Separate` — no two sections are about the same thing;
* `Dictionary.Agrees` — two dictionaries have the same objects and members, give the same answers
  and are emitted alike.

Main results:

* `Sheet.bare_dictionary_perm` — a data sheet gives the same in every order of its sections;
* `order_irrelevant` — **rearranged data sheets give dictionaries that agree, or both give none**.
-/

import DataSheet.Proofs.Commute
import DataSheet.Proofs.Sheets
import DataSheet.Proofs.Soundness

set_option relaxedAutoImplicit false
set_option autoImplicit false

namespace DataSheet

/-! ### Looking up sections by name -/

/-- A search that at most one item answers does not depend on the order. -/
theorem find?_perm {α : Type} {p : α → Bool} {l l' : List α} (h : l.Perm l')
    (hone : ∀ a ∈ l, ∀ b ∈ l, p a → p b → a = b) : l.find? p = l'.find? p := by
  induction h with
  | nil => rfl
  | cons a q ih =>
      rw [List.find?_cons, List.find?_cons,
        ih fun b hb c hc => hone b (List.mem_cons_of_mem a hb) c (List.mem_cons_of_mem a hc)]
  | swap a b l =>
      have hab : p b → p a → b = a := hone b List.mem_cons_self a
        (List.mem_cons_of_mem b List.mem_cons_self)
      simp only [List.find?_cons]
      cases ha : p a <;> cases hb : p b <;> try rfl
      rw [hab hb ha]
  | trans q r ihq ihr =>
      exact (ihq hone).trans (ihr fun a ha b hb => hone a (q.mem_iff.2 ha) b (q.mem_iff.2 hb))

namespace Sheet

variable {S T : Sheet}

/-- Sections are found by name in whatever order they stand. -/
theorem find?_perm (h : S.sections.Perm T.sections) (hS : (S.sections.map Section.name).Nodup) :
    S.find? = T.find? := by
  funext name
  refine DataSheet.find?_perm h fun s hs t ht hsn htn => ?_
  have hname : s.name = t.name := by
    rw [decide_eq_true_eq] at hsn htn
    rw [hsn, htn]
  exact List.inj_on_of_nodup_map hS hs ht hname

/-- What a section describes depends on the other sections by name only. -/
theorem variable_congr (h : S.find? = T.find?) : S.variable = T.variable := by
  have hdefined : S.definedType? = T.definedType? := by
    funext code
    unfold definedType? definition?
    rw [h]
  funext s a node
  unfold «variable» dataType
  rw [hdefined]

theorem contribution_congr (h : S.find? = T.find?) : S.contribution = T.contribution := by
  have hobject : S.object = T.object := by
    funext s index node
    unfold object compactArray
    rw [variable_congr h]
  funext node x
  unfold contribution
  rw [hobject]

end Sheet

/-! ### Sections in any order -/

/-- A run over a list finds the same results in every order. -/
theorem mapM_perm {α β : Type} {f : α → Option β} {l l' : List α} (h : l.Perm l') :
    Option.Rel List.Perm (l.mapM f) (l'.mapM f) := by
  induction h with
  | nil => exact .some .nil
  | @cons a l l' q ih =>
      rw [List.mapM_cons, List.mapM_cons]
      cases f a with
      | none => exact .none
      | some b =>
          revert ih
          cases l.mapM f <;> cases l'.mapM f <;> intro ih <;> cases ih
          · exact .none
          next h => exact .some (h.cons b)
  | swap a b l =>
      simp only [List.mapM_cons]
      cases f a <;> cases f b <;> try exact .none
      cases l.mapM f with
      | none => exact .none
      | some bs => exact .some (.swap _ _ bs)
  | trans q r ihq ihr =>
      revert ihq ihr
      generalize List.mapM f _ = o₁, List.mapM f _ = o₂, List.mapM f _ = o₃
      rintro (h | _) (h' | _)
      · exact .some (h.trans h')
      · exact .none

/-- No two sections are about the same thing, and there is no section for an object at the index of
a dummy that is turned on. -/
structure Sheet.Separate (sheet : Sheet) : Prop where
  single : ∀ s ∈ sheet.sections, ∀ t ∈ sheet.sections, ∀ h, Heading.ofName s.name = .ok h →
    Heading.ofName t.name = .ok h → h ≠ .other → s = t
  dummies : ∀ s ∈ sheet.sections, ∀ t ∈ sheet.sections, ∀ i,
    Heading.ofName s.name = .ok .dummyUsage → Heading.ofName t.name = .ok (.object i) →
      i.toNat ∉ Dictionary.dummies s

/-- Different sections of a data sheet without conflicts are apart. -/
theorem Sheet.Separate.apart {sheet : Sheet} (h : sheet.Separate)
    {headed : List (Section × Heading)}
    (hheaded : (sheet.sections.mapM fun s : Section => s.headed.toOption) = some headed) :
    ∀ x ∈ headed, ∀ y ∈ headed, x ≠ y → Section.Apart x y := by
  have hfrom : ∀ x ∈ headed, x.1 ∈ sheet.sections ∧ Heading.ofName x.1.name = .ok x.2 := by
    generalize sheet.sections = sections at hheaded
    induction sections generalizing headed with
    | nil =>
        cases hheaded
        intro x hx
        cases hx
    | cons s sections ih =>
        rw [List.mapM_cons] at hheaded
        obtain ⟨y, hy, hheaded⟩ := Option.bind_eq_some_iff.1 hheaded
        obtain ⟨ys, hys, hheaded⟩ := Option.bind_eq_some_iff.1 hheaded
        cases hheaded
        intro x hx
        rcases List.mem_cons.1 hx with rfl | hx
        · rw [Report.toOption_eq_some_iff] at hy
          unfold Section.headed at hy
          split at hy
          next k hk =>
            cases hy
            exact ⟨List.mem_cons_self, hk⟩
          · cases hy
        · obtain ⟨hmem, hname⟩ := ih hys x hx
          exact ⟨List.mem_cons_of_mem s hmem, hname⟩
  intro x hx y hy hne
  obtain ⟨hxs, hxh⟩ := hfrom x hx
  obtain ⟨hys, hyh⟩ := hfrom y hy
  constructor
  · intro heq
    by_contra hother
    have hsame := h.single x.1 hxs y.1 hys x.2 hxh (heq ▸ hyh) hother
    exact hne (Prod.ext hsame heq)
  · intro i hxd hyo
    rw [hxd] at hxh
    rw [hyo] at hyh
    exact h.dummies x.1 hxs y.1 hys i hxh hyh

/-- **A data sheet gives the same dictionary in every order of its sections**, but for the memory of
names. -/
theorem Sheet.bare_dictionary_perm {S T : Sheet} (h : S.sections.Perm T.sections)
    (hnames : (S.sections.map Section.name).Nodup) (hS : S.Separate) (node : Option UInt8) :
    (S.dictionary node).result?.map Dictionary.bare =
      (T.dictionary node).result?.map Dictionary.bare := by
  -- types are looked up in the same sections, so that only the order of the steps differs
  have hfind := find?_perm h hnames
  have hfirst : ∀ d x, (Dictionary.firstPass T d x).result? =
      (Dictionary.firstPass S d x).result? := by
    intro d x
    rw [Dictionary.result?_firstPass, Dictionary.result?_firstPass, contribution_congr hfind]
  have hsecond : Dictionary.secondPass T = Dictionary.secondPass S := by
    funext d x
    unfold Dictionary.secondPass Dictionary.addMember
    rw [variable_congr hfind]
  have hrel := mapM_perm (f := fun s : Section => s.headed.toOption) h
  rw [result?_dictionary, result?_dictionary]
  cases hheaded : S.sections.mapM (fun s : Section => s.headed.toOption) with
  | none =>
      rw [hheaded] at hrel
      generalize T.sections.mapM (fun s : Section => s.headed.toOption) = o at hrel ⊢
      cases hrel
      rfl
  | some headed =>
      have hapart := hS.apart hheaded
      rw [hheaded] at hrel
      generalize T.sections.mapM (fun s : Section => s.headed.toOption) = o at hrel ⊢
      cases hrel
      next headed' hperm =>
        simp only [Option.bind_some, hfirst, hsecond]
        refine bind_view_congr (foldlM_perm hperm ?_ ?_ rfl) fun d d' hd =>
          bind_view_congr (foldlM_perm hperm ?_ ?_ hd) fun e e' he => foldlM_perm hperm ?_ ?_ he
        · exact fun x _ d e h => Dictionary.firstPass_congr h
        · intro x hx y hy hxy d
          exact d.firstPass_comm (hapart x hx y hy hxy) (hapart y hy x hx (Ne.symm hxy))
        · exact fun x _ d e h => Dictionary.secondPass_congr h
        · intro x hx y hy hxy d
          exact d.secondPass_comm (hapart x hx y hy hxy)
        · exact fun x _ d e h => Dictionary.thirdPass_congr h
        · intro x hx y hy hxy d
          exact d.thirdPass_comm (hapart x hx y hy hxy)

/-! ### Dictionaries that agree -/

namespace Dictionary

/-- The dictionaries have the same objects with the same members, find the same under each name that
at most one object or one member carries, and are emitted alike. -/
structure Agrees (d e : Dictionary) : Prop where
  objects : d.objects.map Object.bare = e.objects.map Object.bare
  bitrate : d.bitrate = e.bitrate
  nodeId : d.nodeId = e.nodeId
  named : ∀ n, (∀ o ∈ d.objects, ∀ p ∈ d.objects, o.name = n → p.name = n → o = p) →
    (d.get (.name n)).map Object.bare = (e.get (.name n)).map Object.bare
  memberNamed : ∀ index g g', d.find? index = some (.group g) → e.find? index = some (.group g') →
    ∀ n, (∀ v ∈ g.members.items, ∀ w ∈ g.members.items, v.name = n → w.name = n → v = w) →
      g.memberNamed n = g'.memberNamed n
  emitted : ∀ c s, d.emit c s = e.emit c s

/-- An object of one dictionary is an object of the other, but for the memory of names. -/
theorem exists_object {d e : Dictionary} (h : d.bare = e.bare) {o : Object}
    (ho : o ∈ e.objects) : ∃ p ∈ d.objects, p.bare = o.bare := by
  have hobjects : d.objects.map Object.bare = e.objects.map Object.bare :=
    congrArg Dictionary.objects h
  have hmem : o.bare ∈ e.objects.map Object.bare := List.mem_map_of_mem ho
  rw [← hobjects] at hmem
  exact List.mem_map.1 hmem

/-- In a sound dictionary an object is known by its index. -/
theorem Sound.eq_of_index {d : Dictionary} (hd : d.Sound) {o p : Object} (ho : o ∈ d.objects)
    (hp : p ∈ d.objects) (h : o.index = p.index) : o = p := by
  have hfo : d.find? o.index = some o := hd.registry.ascends.find?_key ho
  have hfp : d.find? p.index = some p := hd.registry.ascends.find?_key hp
  rw [h, hfp] at hfo
  exact (Option.some.inj hfo).symm

/-- What is found under a name that at most one object carries. -/
theorem Sound.get_name {d : Dictionary} (hd : d.Sound) {n : String}
    (hone : ∀ o ∈ d.objects, ∀ p ∈ d.objects, o.name = n → p.name = n → o = p) :
    (d.get (.name n)).map Object.bare =
      match (d.objects.map Object.bare).find? fun o => o.name = n with
      | some o => .ok o
      | none => .error (.notFound (.name n)) := by
  rw [Dictionary.get_name, hd.registry.answer_eq hone, List.find?_map]
  have hname : ((fun o : Object => decide (o.name = n)) ∘ Object.bare) =
      fun o => decide (o.name = n) := by
    funext o
    simp only [Function.comp, Object.name_bare]
  rw [hname]
  have hsearch : d.registry.items.find? (fun o => decide (Registered.name o = n)) =
      d.objects.find? fun o => decide (o.name = n) := rfl
  rw [hsearch]
  cases d.objects.find? (fun o => decide (o.name = n)) <;> rfl

/-- Sound dictionaries agree if they are the same but for the memory of names. -/
theorem agrees_of_bare {d e : Dictionary} (hd : d.Sound) (he : e.Sound) (h : d.bare = e.bare) :
    d.Agrees e where
  objects := (congrArg Dictionary.objects h :)
  bitrate := (congrArg Dictionary.bitrate h :)
  nodeId := (congrArg Dictionary.nodeId h :)
  named := by
    intro n hone
    have hone' : ∀ o ∈ e.objects, ∀ p ∈ e.objects, o.name = n → p.name = n → o = p := by
      -- both stand for objects of `d` with the name, of which there is one
      intro o ho p hp hon hpn
      obtain ⟨o', ho', hoo⟩ := exists_object h ho
      obtain ⟨p', hp', hpp⟩ := exists_object h hp
      have hsame : o' = p' := by
        refine hone o' ho' p' hp' ?_ ?_
        · rw [← Object.name_bare, hoo, Object.name_bare, hon]
        · rw [← Object.name_bare, hpp, Object.name_bare, hpn]
      refine he.eq_of_index ho hp ?_
      rw [← Object.index_bare, ← hoo, hsame, hpp, Object.index_bare]
    have hobjects : d.objects.map Object.bare = e.objects.map Object.bare :=
      congrArg Dictionary.objects h
    rw [hd.get_name hone, he.get_name hone', hobjects]
  memberNamed := by
    intro index g g' hg hg' n hone
    have hbare : Object.group g.bare = Object.group g'.bare := by
      have hfind := congrArg (fun d => d.find? index) h
      simp only [find?_bare, hg, hg', Option.map_some, Option.some.injEq] at hfind
      exact hfind
    have hitems : g.members.items = g'.members.items :=
      (congrArg (fun g : Group => g.members.items) (Object.group.inj hbare) :)
    have hs : g.members.Sound := hd.objects _ (Registry.mem_of_find? hg).1
    have hs' : g'.members.Sound := he.objects _ (Registry.mem_of_find? hg').1
    rw [Group.memberNamed_eq, Group.memberNamed_eq, hs.answer_eq hone,
      hs'.answer_eq (hitems ▸ hone), hitems]
  emitted := by
    intro c s
    rw [← emit_bare, h, emit_bare]

end Dictionary

/-! ### Rearranged data sheets -/

theorem Sheet.Separate.unlined {sheet : Sheet} (h : sheet.Separate) : sheet.unlined.Separate where
  single := by
    intro s hs t ht k hsk htk hk
    obtain ⟨s', hs', rfl⟩ := List.mem_map.1 hs
    obtain ⟨t', ht', rfl⟩ := List.mem_map.1 ht
    rw [h.single s' hs' t' ht' k hsk htk hk]
  dummies := by
    intro s hs t ht i hsd hto
    obtain ⟨s', hs', rfl⟩ := List.mem_map.1 hs
    obtain ⟨t', ht', rfl⟩ := List.mem_map.1 ht
    rw [s'.restates_unlined.dummies]
    exact h.dummies s' hs' t' ht' i hsd hto

/-- The sections of a group and of a member are not in conflict. -/
theorem Sheet.separate_of_group_of_member {s t : Section} (i j : UInt16) (k : UInt8)
    (hs : Heading.ofName s.name = .ok (.object i))
    (ht : Heading.ofName t.name = .ok (.member j k)) : (Sheet.mk [s, t]).Separate where
  single := by
    intro u hu v hv h huh hvh _
    simp only [List.mem_cons, List.not_mem_nil, or_false] at hu hv
    rcases hu with rfl | rfl <;> rcases hv with rfl | rfl
    · rfl
    · cases hs.symm.trans huh
      cases ht.symm.trans hvh
    · cases ht.symm.trans huh
      cases hs.symm.trans hvh
    · rfl
  dummies := by
    intro u hu v hv i' huh hvh
    simp only [List.mem_cons, List.not_mem_nil, or_false] at hu
    rcases hu with rfl | rfl
    · cases hs.symm.trans huh
    · cases ht.symm.trans huh

/-- **The order of sections and entries does not matter.**  Rearranged data sheets without conflicts
give dictionaries that agree, or both give none.  Every text that can be read is a proper data
sheet, by `Sheet.proper_ofText`. -/
theorem order_irrelevant {S T : Sheet} (hS : S.Proper) (hT : T.Proper) (h : S.Rearranged T)
    (hseparate : S.Separate) (node : Option UInt8) :
    ((∃ d, (S.dictionary node).outcome = .ok d) ↔ ∃ e, (T.dictionary node).outcome = .ok e) ∧
      ∀ d e, (S.dictionary node).outcome = .ok d → (T.dictionary node).outcome = .ok e →
        d.Agrees e := by
  have hnames : (S.unlined.sections.map Section.name).Nodup := by
    unfold Sheet.unlined
    rw [List.map_map]
    exact hS.distinct
  have hbare := Sheet.bare_dictionary_perm (h.perm hS hT) hnames hseparate.unlined node
  rw [Sheet.result?_dictionary_unlined, Sheet.result?_dictionary_unlined] at hbare
  have hsome : ∀ sheet : Sheet, (∃ d, (sheet.dictionary node).outcome = .ok d) ↔
      ((sheet.dictionary node).result?.map Dictionary.bare).isSome := by
    intro sheet
    rw [Option.isSome_map, Option.isSome_iff_exists]
    simp only [Report.result?_eq_some_iff]
  constructor
  · rw [hsome, hsome, hbare]
  · intro d e hd he
    refine Dictionary.agrees_of_bare (Dictionary.sound_ofSheet hd) (Dictionary.sound_ofSheet he) ?_
    rw [Report.result?_eq_some_iff.2 hd, Report.result?_eq_some_iff.2 he] at hbare
    exact Option.some.inj hbare

/-- The section of a member may stand before that of its group. -/
theorem order_irrelevant_memberFirst : ∃ S T : Sheet,
    (Sheet.ofText "[1018]\nObjectType=9\n[1018sub1]\nDataType=5\nDefaultValue=3").outcome = .ok S ∧
    (Sheet.ofText "[1018sub1]\nDefaultValue=3\nDataType=5\n[1018]\nObjectType=9").outcome = .ok T ∧
    (∃ d, (T.dictionary none).outcome = .ok d) ∧
    ∀ d e, (S.dictionary none).outcome = .ok d → (T.dictionary none).outcome = .ok e →
      d.Agrees e := by
  have hS : (Sheet.ofText
      "[1018]\nObjectType=9\n[1018sub1]\nDataType=5\nDefaultValue=3").outcome =
        .ok ⟨[⟨"1018", 1, [⟨"objecttype", "ObjectType", "9", 2⟩]⟩,
          ⟨"1018sub1", 3, [⟨"datatype", "DataType", "5", 4⟩,
            ⟨"defaultvalue", "DefaultValue", "3", 5⟩]⟩]⟩ := by
    decide +kernel
  have hT : (Sheet.ofText
      "[1018sub1]\nDefaultValue=3\nDataType=5\n[1018]\nObjectType=9").outcome =
        .ok ⟨[⟨"1018sub1", 1, [⟨"datatype", "DataType", "5", 3⟩,
            ⟨"defaultvalue", "DefaultValue", "3", 2⟩]⟩,
          ⟨"1018", 4, [⟨"objecttype", "ObjectType", "9", 5⟩]⟩]⟩ := by
    decide +kernel
  have hok : ((Sheet.ofText
      "[1018]\nObjectType=9\n[1018sub1]\nDataType=5\nDefaultValue=3").outcome >>=
        fun S => (S.dictionary none).outcome).toOption.isSome := by
    rw [hS]
    decide +kernel
  rw [hS] at hok
  obtain ⟨d, hd⟩ := Option.isSome_iff_exists.1 hok
  obtain ⟨hiff, hagrees⟩ := order_irrelevant (Sheet.proper_ofText hS) (Sheet.proper_ofText hT)
    ⟨[_, _], .swap _ _ [], .cons ⟨rfl, .of_eq rfl⟩ (.cons ⟨rfl, .of_eq rfl⟩ .nil)⟩
    (Sheet.separate_of_group_of_member 0x1018 0x1018 1 (by decide) (by decide)) none
  exact ⟨_, _, hS, hT, hiff.1 ⟨d, Report.toOption_eq_some_iff.1 hd⟩, hagrees⟩

end DataSheet
