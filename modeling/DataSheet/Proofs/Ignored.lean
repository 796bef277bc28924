/-
**Sections for members of what has none.**

A section may be about a member of a plain variable, or give names to its members.  It is read, and
then it is left out with a notice.  So the dictionary is the same as without the section, provided
that the section can be read: what is wrong with its own type, values or count is told before the
place of the section is looked at.

Main definitions:

* `Report.Interposed` — one report is another one with steps put in, whose result does not count;
* `Sheet.runs` — the three runs over sections with their headings;
* `Sheet.passOver` — what is done about a section for members where no group stands;
* `Sheet.OwnFault` — the faults of a section for members that can be told from the section alone.

Main results:

* `Sheet.TypesIn.firstPass_eq`, `Sheet.TypesIn.secondPass_eq` — steps that succeed do the same with
  more types, to their notices;
* `Sheet.interposed_runs` — **one more section for members of what has none** puts its own steps
  between those of the others;
* `left_out_unless_faulty` — **such a section changes nothing unless it has a fault of its own**.
-/

import DataSheet.Proofs.Acceptance
import DataSheet.Proofs.Expansion
import DataSheet.Proofs.Sheets

set_option relaxedAutoImplicit false
set_option autoImplicit false

namespace DataSheet

/-! ### Steps put in -/

namespace Report

variable {ν ε α β : Type}

/-- The second report is the first one with the steps `own` put in somewhere.  Their result does not
count, but they may post notices and fail. -/
def Interposed (own : Report ν ε Unit) (r r' : Report ν ε α) : Prop :=
  ∃ (first : Report ν ε Unit) (rest : Report ν ε α),
    r = (first >>= fun _ => rest) ∧ r' = (first >>= fun _ => own >>= fun _ => rest)

namespace Interposed

variable {own : Report ν ε Unit} {r r' : Report ν ε α}

theorem here (own : Report ν ε Unit) (r : Report ν ε α) : Interposed own r (own >>= fun _ => r) :=
  ⟨pure (), r, (pure_bind () fun _ => r).symm, (pure_bind () fun _ => own >>= fun _ => r).symm⟩

/-- Steps may be put in behind a step that succeeds. -/
theorem after {p : Report ν ε β} {b : β} (hp : p.outcome = .ok b) {k k' : β → Report ν ε α}
    (h : Interposed own (k b) (k' b)) : Interposed own (p >>= k) (p >>= k') := by
  obtain ⟨first, rest, hr, hr'⟩ := h
  refine ⟨notes p.notices >>= fun _ => first, rest, ?_, ?_⟩
  · rw [bind_eq_of_ok hp, hr, bind_assoc]
  · rw [bind_eq_of_ok hp, hr', bind_assoc]

/-- Steps may be put in before others. -/
theorem before (h : Interposed own r r') (k : α → Report ν ε β) :
    Interposed own (r >>= k) (r' >>= k) := by
  obtain ⟨first, rest, rfl, rfl⟩ := h
  exact ⟨first, rest >>= k, by simp only [bind_assoc], by simp only [bind_assoc]⟩

/-- The steps that are put in decide whether there is a fault. -/
theorem outcome (h : Interposed own r r') {a : α} (hr : r.outcome = .ok a) :
    r'.outcome = own.outcome.map fun _ => a := by
  obtain ⟨first, rest, rfl, rfl⟩ := h
  obtain ⟨u, hfirst, hrest⟩ := outcome_bind_eq_ok_iff.1 hr
  rw [outcome_bind, hfirst]
  change (own >>= fun _ => rest).outcome = _
  rw [outcome_bind, hrest]
  cases own.outcome <;> rfl

/-- The notices of the steps that are put in stand between the others. -/
theorem notices (h : Interposed own r r') {a : α} (hr : r.outcome = .ok a) {u : Unit}
    (hown : own.outcome = .ok u) :
    ∃ ns ns', r.notices = ns ++ ns' ∧ r'.notices = ns ++ own.notices ++ ns' := by
  obtain ⟨first, rest, rfl, rfl⟩ := h
  obtain ⟨v, hfirst, -⟩ := outcome_bind_eq_ok_iff.1 hr
  refine ⟨first.notices, rest.notices, ?_, ?_⟩
  · rw [notices_bind, hfirst]
  · rw [notices_bind, hfirst]
    dsimp only
    rw [notices_bind, hown, List.append_assoc]

end Interposed

variable {f g : β → α → Report ν ε β}

/-- One more item in a run puts its step between the others, if that changes nothing. -/
theorem interposed_foldlM {own : Report ν ε Unit} {x : α} {before after : List α} {b b' : β}
    (hfg : ∀ b a b', (f b a).outcome = .ok b' → g b a = f b a)
    (h : ((before ++ after).foldlM f b).outcome = .ok b')
    (hx : ∀ c, (before.foldlM f b).outcome = .ok c → (after.foldlM f c).outcome = .ok b' →
      g c x = own >>= fun _ => pure c) :
    Interposed own ((before ++ after).foldlM f b) ((before ++ x :: after).foldlM g b) := by
  rw [List.foldlM_append] at h ⊢
  obtain ⟨c, hc, hafter⟩ := outcome_bind_eq_ok_iff.1 h
  rw [List.foldlM_append, foldlM_congr_of_ok hfg hc]
  refine .after hc ?_
  rw [List.foldlM_cons, hx c hc hafter, bind_assoc]
  simp only [pure_bind]
  rw [foldlM_congr_of_ok hfg hafter]
  exact .here own _

end Report

/-! ### Steps with more types -/

namespace Sheet.TypesIn

variable {S T : Sheet}

theorem firstPass_eq (h : S.TypesIn T) {d d' : Dictionary} {x : Section × Heading}
    (hd : (d.firstPass S x).outcome = .ok d') : d.firstPass T x = d.firstPass S x := by
  obtain ⟨s, heading⟩ := x
  cases heading with
  | object index =>
      change (d.addObject S s index).outcome = _ at hd
      change d.addObject T s index = d.addObject S s index
      unfold Dictionary.addObject at hd ⊢
      obtain ⟨o, ho, -⟩ := Report.outcome_bind_eq_ok_iff.1 hd
      rw [h.object_eq ho]
  | commissioning | dummyUsage | member index subindex | nameList index | other => rfl

theorem secondPass_eq (h : S.TypesIn T) {d d' : Dictionary} {x : Section × Heading}
    (hd : (d.secondPass S x).outcome = .ok d') : d.secondPass T x = d.secondPass S x := by
  obtain ⟨s, heading⟩ := x
  cases heading with
  | member index subindex =>
      change (d.addMember S s _).outcome = _ at hd
      change d.addMember T s _ = d.addMember S s _
      unfold Dictionary.addMember at hd ⊢
      obtain ⟨v, hv, -⟩ := Report.outcome_bind_eq_ok_iff.1 hd
      rw [h.variable_eq hv]
  | commissioning | dummyUsage | object index | nameList index | other => rfl

end Sheet.TypesIn

/-! ### Steps that pass over a section -/

/-- What is done about a section for members where no group stands: it is read, what stands there is
looked up, and a notice tells that the section is left out. -/
def Sheet.passOver (sheet : Sheet) (node : Option UInt8) (found : Except Fault Object)
    (s : Section) : Heading → Step Unit
  | .member index subindex => do
    let _ ← sheet.variable s ⟨index, subindex⟩ node
    let _ ← .ofExcept found
    .note (.notAGroup s.name index)
  | .nameList index => do
    let _ ← .ofExcept s.nameCount
    let _ ← .ofExcept found
    .note (.notAGroup s.name index)
  | _ => pure ()

namespace Dictionary

variable {d e : Dictionary} {i : UInt16}

/-- No group stands at the index. -/
def Groupless (d : Dictionary) (i : UInt16) : Prop := ∀ g, d.find? i ≠ some (.group g)

/-- Where no group stands, it does not matter what would be done with one. -/
theorem get_bind_of_groupless {α : Type} (h : d.Groupless i) (plain : Step α)
    (group : Group → Step α) :
    (Report.ofExcept (d.get (.index i)) >>= fun
      | .plain _ => plain
      | .group g => group g) = Report.ofExcept (d.get (.index i)) >>= fun _ => plain := by
  rw [get_index]
  cases ho : d.find? i with
  | none => rfl
  | some o =>
      cases o with
      | plain v => rfl
      | group g => exact absurd ho (h g)

theorem addMember_of_groupless (h : d.Groupless i) (sheet : Sheet) (s : Section) (k : UInt8) :
    d.addMember sheet s ⟨i, k⟩ =
      sheet.passOver d.nodeId (d.get (.index i)) s (.member i k) >>= fun _ => pure d := by
  unfold addMember Sheet.passOver
  simp only [bind_assoc]
  exact congrArg (sheet.variable s ⟨i, k⟩ d.nodeId >>= ·)
    (funext fun v => get_bind_of_groupless h _ _)

theorem addNames_of_groupless (h : d.Groupless i) (sheet : Sheet) (s : Section) :
    d.addNames s i =
      sheet.passOver d.nodeId (d.get (.index i)) s (.nameList i) >>= fun _ => pure d := by
  unfold addNames Sheet.passOver Section.nameCount
  simp only [bind_assoc]
  cases s.entry? "NrOfEntries" with
  | none => exact get_bind_of_groupless h _ _
  | some e =>
      dsimp only
      unfold Entry.count
      cases Literal.count? e.value.toList with
      | none => rfl
      | some count => exact get_bind_of_groupless h _ _

/-- Later runs leave what stands where no group does. -/
theorem SameFrames.find?_eq (h : d.SameFrames e) (he : e.Groupless i) : d.find? i = e.find? i := by
  have hframe := h.frames i
  cases hd : d.find? i with
  | none =>
      rw [hd] at hframe
      exact (Option.map_eq_none_iff.1 hframe).symm
  | some o =>
      cases o with
      | plain v =>
          rw [hd] at hframe
          obtain ⟨p, hp, hsame⟩ := Option.map_eq_some_iff.1 hframe
          cases p with
          | plain w =>
              cases hsame
              exact hp.symm
          | group g => exact absurd hp (he g)
      | group g =>
          obtain ⟨g', hg', -⟩ := h.exists_group hd
          exact absurd hg' (he g')

end Dictionary

/-! ### One more section -/

/-- The three runs over sections with their headings. -/
def Sheet.runs (sheet : Sheet) (node : Option UInt8) (headed : List (Section × Heading)) :
    Step Dictionary := do
  let d ← headed.foldlM (Dictionary.firstPass sheet) { Dictionary.empty with nodeId := node }
  let d ← headed.foldlM (Dictionary.secondPass sheet) d
  headed.foldlM Dictionary.thirdPass d

theorem Sheet.dictionary_eq_runs {sheet : Sheet} {headed : List (Section × Heading)}
    (h : sheet.sections.mapM Section.headed = .ok headed) (node : Option UInt8) :
    sheet.dictionary node = sheet.runs node headed := by
  unfold Sheet.dictionary
  rw [h]
  rfl

theorem Section.About.headed_eq {s : Section} {h : Heading} (hs : s.About h) :
    s.headed = .ok (s, h) := by
  unfold headed
  rw [(Heading.ofName_eq_ok_iff hs.ne_other).2 hs]

/-- The heading is about members of the object at an index. -/
def Heading.Below (i : UInt16) (h : Heading) : Prop := h = .nameList i ∨ ∃ k, h = .member i k

namespace Sheet

variable {S T : Sheet} {node : Option UInt8} {d : Dictionary} {i : UInt16}
  {before after : List (Section × Heading)} {x : Section × Heading}

/-- **One more section for members of what has none** puts its own steps between those of the other
sections. -/
theorem interposed_runs (h : S.TypesIn T) (hx : x.2.Below i)
    (hd : (S.runs node (before ++ after)).outcome = .ok d) (hi : d.Groupless i) :
    Report.Interposed (T.passOver node (d.get (.index i)) x.1 x.2)
      (S.runs node (before ++ after)) (T.runs node (before ++ x :: after)) := by
  obtain ⟨s, heading⟩ := x
  obtain ⟨d₁, hd₁, hrest⟩ := Report.outcome_bind_eq_ok_iff.1 hd
  obtain ⟨d₂, hd₂, hd₃⟩ := Report.outcome_bind_eq_ok_iff.1 hrest
  have hnode : d₁.nodeId = node := nodeId_afterFirst hd₁
  have hthird : d₂.SameFrames d := sameFrames_afterThird hd₃
  -- what the step of the section sees, wherever in the later runs its turn comes
  have hseen : ∀ {c : Dictionary}, d₁.SameFrames c → c.SameFrames d →
      c.Groupless i ∧ c.nodeId = node ∧ c.get (.index i) = d.get (.index i) := by
    intro c hbefore hafter
    have hfind := hafter.find?_eq hi
    refine ⟨fun g => ?_, hbefore.nodeId.trans hnode, ?_⟩
    · rw [hfind]
      exact hi g
    · rw [Dictionary.get_index, Dictionary.get_index, hfind]
  have hfirst : (before ++ (s, heading) :: after).foldlM (Dictionary.firstPass T)
      { Dictionary.empty with nodeId := node } =
        (before ++ after).foldlM (Dictionary.firstPass S)
          { Dictionary.empty with nodeId := node } := by
    rw [Report.foldlM_append_cons_of_idle]
    · exact Report.foldlM_congr_of_ok (fun _ _ _ => h.firstPass_eq) hd₁
    · rcases hx with hx | ⟨k, hx⟩ <;> cases hx <;> exact fun _ => rfl
  unfold runs
  rw [hfirst]
  refine .after hd₁ ?_
  rcases hx with hx | ⟨k, hx⟩ <;> cases hx
  · -- a list of names has its turn in the third run
    rw [Report.foldlM_append_cons_of_idle fun _ => rfl,
      Report.foldlM_congr_of_ok (fun _ _ _ => h.secondPass_eq) hd₂]
    refine .after hd₂ (Report.interposed_foldlM (fun _ _ _ _ => rfl) hd₃ fun c hc hc' => ?_)
    obtain ⟨hgroupless, hcnode, hget⟩ := hseen
      ((sameFrames_afterSecond hd₂).trans (sameFrames_afterThird hc)) (sameFrames_afterThird hc')
    rw [← hcnode, ← hget]
    exact Dictionary.addNames_of_groupless hgroupless T s
  · -- a member has its turn in the second run
    have hidle : (fun e : Dictionary =>
        (before ++ (s, .member i k) :: after).foldlM Dictionary.thirdPass e) =
          fun e => (before ++ after).foldlM Dictionary.thirdPass e :=
      funext fun e => Report.foldlM_append_cons_of_idle (fun _ => rfl) before after e
    rw [hidle]
    refine .before (Report.interposed_foldlM (fun _ _ _ => h.secondPass_eq) hd₂
      fun c hc hc' => ?_) _
    obtain ⟨hgroupless, hcnode, hget⟩ := hseen (sameFrames_afterSecond hc)
      ((sameFrames_afterSecond hc').trans hthird)
    rw [← hcnode, ← hget]
    exact Dictionary.addMember_of_groupless hgroupless T s k

end Sheet

/-! ### Definitions of types -/

/-- The name of the definition of a code without leading zeros. -/
def shortName (code : UInt16) : String := Text.upperHex 1 code.toNat ++ "sub1"

/-- The name of the definition of a code with four digits at least. -/
def paddedName (code : UInt16) : String := Text.upperHex 4 code.toNat ++ "sub1"

theorem shortName_mem (code : UInt16) : shortName code ∈ definitionNames code := List.mem_cons_self

theorem paddedName_mem (code : UInt16) : paddedName code ∈ definitionNames code :=
  List.mem_cons_of_mem _ List.mem_cons_self

theorem Sheet.definition?_eq (sheet : Sheet) (code : UInt16) :
    sheet.definition? code = (sheet.find? (shortName code)).or (sheet.find? (paddedName code)) := by
  have hnames : definitionNames code = [shortName code, paddedName code] := rfl
  rw [definition?, hnames, List.findSome?_cons, List.findSome?_singleton]
  cases sheet.find? (shortName code) <;> rfl

/-- The name of a definition without leading zeros is that of a member only if no zeros lead. -/
theorem Heading.Spelled.shortName_eq {code : UInt16} {h : Heading}
    (hs : Spelled (shortName code).toList h) : shortName code = paddedName code := by
  have hmember := hs.of_definitionName (shortName_mem code)
  subst hmember
  rw [shortName, String.toList_append] at hs
  generalize hname : (Text.upperHex 1 code.toNat).toList ++ "sub1".toList = s at hs
  cases hs with
  | @member digits word rest _ _ index announced _ =>
      have hnumber := Text.number?_upperHex 1 code.toNat
      obtain ⟨hdigits, -⟩ := eq_of_digits_append (Text.isDigit_of_number? hnumber)
        (Text.isDigit_of_number? index.2) (Announces.head? (.inl rfl) ['1'])
        (announced.head? rest) hname
      have hlength := index.1
      rw [← hdigits] at hlength
      unfold shortName paddedName
      unfold Text.upperHex at hlength ⊢
      rw [String.toList_ofList, List.length_leftpad] at hlength
      generalize (Nat.toDigits 16 code.toNat).map Char.toUpper = l at hlength ⊢
      have hfour : l.length = 4 := by omega
      rw [List.leftpad, List.leftpad, hfour]

namespace Sheet

variable {before after : List Section} {t : Section} {i : UInt16} {h : Heading}

/-- The other sections have other names. -/
theorem Proper.name_ne (hT : (Sheet.mk (before ++ t :: after)).Proper) :
    ∀ s ∈ before ++ after, s.name ≠ t.name := by
  have hdistinct := hT.distinct
  rw [List.map_append, List.map_cons, List.nodup_middle, List.nodup_cons,
    ← List.map_append] at hdistinct
  intro s hs hname
  exact hdistinct.1 (hname ▸ List.mem_map_of_mem hs)

/-- A section with a name of its own is found by that name, and all others are found as before. -/
theorem find?_insert (hnew : ∀ s ∈ before ++ after, s.name ≠ t.name) (name : String) :
    (Sheet.mk (before ++ t :: after)).find? name =
      if t.name = name then some t else (Sheet.mk (before ++ after)).find? name := by
  have hother : ∀ sections ⊆ before ++ after, t.name = name →
      sections.find? (fun s => s.name = name) = none := by
    intro sections hsub hname
    rw [List.find?_eq_none]
    intro s hs
    simpa [← hname] using hnew s (hsub hs)
  unfold find?
  rw [List.find?_append, List.find?_append, List.find?_cons]
  by_cases hname : t.name = name
  · rw [if_pos hname, hother before (List.subset_append_left _ _) hname]
    simp [hname]
  · simp [hname]

/-- One more section for members takes no type away: it has the first name of a definition only if
that is the other name as well, and then the type was not defined. -/
theorem typesIn_insert (hnew : ∀ s ∈ before ++ after, s.name ≠ t.name) (habout : t.About h) :
    (Sheet.mk (before ++ after)).TypesIn ⟨before ++ t :: after⟩ := by
  have hnone : (Sheet.mk (before ++ after)).find? t.name = none :=
    List.find?_eq_none.2 fun s hs => by simpa using hnew s hs
  have hdefinition : ∀ code u, (Sheet.mk (before ++ after)).definition? code = some u →
      (Sheet.mk (before ++ t :: after)).definition? code = some u := by
    intro code u hu
    rw [definition?_eq] at hu ⊢
    rw [find?_insert hnew, find?_insert hnew]
    by_cases hshort : t.name = shortName code
    · have hlong : t.name = paddedName code := by
        unfold Section.About at habout
        rw [hshort] at habout ⊢
        exact habout.shortName_eq
      rw [← hshort, ← hlong, hnone] at hu
      cases hu
    · rw [if_neg hshort]
      by_cases hlong : t.name = paddedName code
      · rw [← hlong, hnone, Option.or_none] at hu
        rw [hu, Option.some_or]
      · rw [if_neg hlong]
        exact hu
  intro code type htype
  unfold definedType? at htype ⊢
  obtain ⟨u, hu, htype⟩ := Option.bind_eq_some_iff.1 htype
  exact Option.bind_eq_some_iff.2 ⟨u, hdefinition code u hu, htype⟩

end Sheet

/-! ### The faults of a section that is left out -/

/-- The faults of a section for members that can be told from the section alone: it describes no
variable, or its count is malformed. -/
inductive Sheet.OwnFault (sheet : Sheet) (node : Option UInt8) (s : Section) : Fault → Prop
  | member {i : UInt16} {k : UInt8} {f : Fault} (about : s.About (.member i k))
      (bad : sheet.VariableFault node s ⟨i, k⟩ f) : OwnFault sheet node s f
  | count {i : UInt16} {f : Fault} (about : s.About (.nameList i))
      (bad : s.BadCount "NrOfEntries" .nameCount f) : OwnFault sheet node s f

namespace Sheet

variable {sheet : Sheet} {node : Option UInt8} {s : Section} {i : UInt16} {h : Heading}

/-- Passing over a section where a plain variable stands fails exactly for the faults of the
section. -/
theorem failsFor_passOver (habout : s.About h) (hbelow : h.Below i) (v : Variable) :
    FailsFor (sheet.OwnFault node s) (sheet.passOver node (.ok (.plain v)) s h).outcome := by
  rcases hbelow with rfl | ⟨k, rfl⟩
  · change FailsFor _ (Report.ofExcept s.nameCount >>= fun _ => _).outcome
    rw [Report.outcome_bind, Report.outcome_ofExcept]
    refine (Section.failsFor_nameCount.bind fun count _ => failsFor_ok ()).congr fun f => ?_
    rw [or_false]
    constructor
    · exact .count habout
    · rintro (⟨about, -⟩ | ⟨-, bad⟩)
      · cases habout.unique about
      · exact bad
  · change FailsFor _ (sheet.variable s ⟨i, k⟩ node >>= fun _ => _).outcome
    rw [Report.outcome_bind]
    refine (failsFor_variable.bind fun w _ => failsFor_ok ()).congr fun f => ?_
    rw [or_false]
    constructor
    · exact .member habout
    · rintro (⟨about, bad⟩ | ⟨about, -⟩)
      · cases habout.unique about
        exact bad
      · cases habout.unique about

/-- The last notice on a section that is passed over tells that it is left out. -/
theorem exists_notices_passOver (hbelow : h.Below i) {found : Except Fault Object}
    (hdone : (sheet.passOver node found s h).outcome = .ok ()) :
    ∃ own, (sheet.passOver node found s h).notices = own ++ [.notAGroup s.name i] := by
  have hlast : ∀ {α β : Type} (r : Step α) (r' : Step β),
      (r >>= fun _ => r' >>= fun _ => .note (.notAGroup s.name i) : Step Unit).outcome = .ok () →
        ∃ own, (r >>= fun _ => r' >>= fun _ => .note (.notAGroup s.name i) : Step Unit).notices =
          own ++ [.notAGroup s.name i] := by
    intro α β r r' hdone
    obtain ⟨a, ha, hdone⟩ := Report.outcome_bind_eq_ok_iff.1 hdone
    obtain ⟨b, hb, -⟩ := Report.outcome_bind_eq_ok_iff.1 hdone
    refine ⟨r.notices ++ r'.notices, ?_⟩
    rw [Report.notices_bind, ha]
    dsimp only
    rw [Report.notices_bind, hb, List.append_assoc]
    rfl
  rcases hbelow with rfl | ⟨k, rfl⟩
  · exact hlast _ _ hdone
  · exact hlast _ _ hdone

/-- **One more section for members of what has none**, in a data sheet. -/
theorem interposed_dictionary {before after : List Section} {t : Section} {d : Dictionary}
    (hnew : ∀ s ∈ before ++ after, s.name ≠ t.name) (habout : t.About h) (hbelow : h.Below i)
    (hd : ((Sheet.mk (before ++ after)).dictionary node).outcome = .ok d) (hi : d.Groupless i) :
    Report.Interposed
      ((Sheet.mk (before ++ t :: after)).passOver node (d.get (.index i)) t h)
      ((Sheet.mk (before ++ after)).dictionary node)
      ((Sheet.mk (before ++ t :: after)).dictionary node) := by
  obtain ⟨headed, -, -, hheaded, -⟩ := outcome_dictionary_eq_ok_iff.1 hd
  obtain ⟨headed₁, headed₂, hbefore, hafter, rfl⟩ := Report.mapM_append_eq_ok_iff.1 hheaded
  have hall := Report.mapM_append_cons_eq_ok_iff.2
    ⟨_, _, _, hbefore, habout.headed_eq, hafter, rfl⟩
  have hruns : (Sheet.mk (before ++ t :: after)).dictionary node = _ := dictionary_eq_runs hall node
  rw [dictionary_eq_runs hheaded] at hd ⊢
  rw [hruns]
  exact interposed_runs (typesIn_insert hnew habout) hbelow hd hi

end Sheet

/-- **A section for members of a plain variable changes nothing unless it has a fault of its own.**
Let a text be read as a data sheet that gives the dictionary `d`, and another one as the same data
sheet, up to the places of lines, with one more section somewhere, which is about a member of a
plain variable of `d` or lists names for its members.  Then the other text fails exactly for the
faults of this section, and otherwise it gives `d` as well.  In the latter case all that is added
is notices, the last of which tells that the section is left out. -/
theorem left_out_unless_faulty {text text' : String} {node : Option UInt8} {S T : Sheet}
    {before after : List Section} {t : Section} {h : Heading} {i : UInt16} {d : Dictionary}
    {v : Variable} (hS : (Sheet.ofText text).outcome = .ok S)
    (hT : (Sheet.ofText text').outcome = .ok T) (hsections : T.sections = before ++ t :: after)
    (hrest : (Sheet.mk (before ++ after)).unlined = S.unlined) (habout : t.About h)
    (hbelow : h.Below i) (hd : (Dictionary.ofText text node).outcome = .ok d)
    (hv : d.find? i = some (.plain v)) :
    FailsFor (T.OwnFault node t) (Dictionary.ofText text' node).outcome ∧
      ∀ e, (Dictionary.ofText text' node).outcome = .ok e → e = d ∧
        ∃ own ns ns', ((Sheet.mk (before ++ after)).dictionary node).notices = ns ++ ns' ∧
          (T.dictionary node).notices = ns ++ (own ++ [.notAGroup t.name i]) ++ ns' := by
  obtain ⟨sections⟩ := T
  dsimp only at hsections
  subst hsections
  have hnew := (Sheet.proper_ofText hT).name_ne
  have hrestd : ((Sheet.mk (before ++ after)).dictionary node).outcome = .ok d := by
    rw [Dictionary.outcome_ofText hS, ← Report.result?_eq_some_iff] at hd
    rw [← Report.result?_eq_some_iff, ← Sheet.result?_dictionary_unlined, hrest,
      Sheet.result?_dictionary_unlined, hd]
  have hinterposed := Sheet.interposed_dictionary hnew habout hbelow hrestd fun g hg => by
    cases hv.symm.trans hg
  rw [Dictionary.get_index_eq_ok_iff.2 hv] at hinterposed
  have houtcome := hinterposed.outcome hrestd
  rw [Dictionary.outcome_ofText hT, houtcome]
  refine ⟨(Sheet.failsFor_passOver habout hbelow v).map _, fun e he => ?_⟩
  obtain ⟨u, hown, rfl⟩ := Report.map_eq_ok_iff.1 he
  obtain ⟨ns, ns', hns, hns'⟩ := hinterposed.notices hrestd hown
  obtain ⟨own, hlast⟩ := Sheet.exists_notices_passOver hbelow hown
  rw [hlast] at hns'
  exact ⟨rfl, own, ns, ns', hns, hns'⟩

/-- A member that can be read is left out, also where its section stands before that of the plain
variable. -/
theorem left_out_unless_faulty_memberFirst : ∃ d v,
    (Dictionary.ofText "[2000]\nParameterName=X\nDataType=5\n" none).outcome = .ok d ∧
    d.find? 0x2000 = some (.plain v) ∧
    (Dictionary.ofText "[2000sub1]\nDataType=7\n[2000]\nParameterName=X\nDataType=5\n"
      none).outcome = .ok d := by
  have hS : (Sheet.ofText "[2000]\nParameterName=X\nDataType=5\n").outcome =
      .ok ⟨[⟨"2000", 1, [⟨"datatype", "DataType", "5", 3⟩,
        ⟨"parametername", "ParameterName", "X", 2⟩]⟩]⟩ := by
    decide +kernel
  have hT : (Sheet.ofText
      "[2000sub1]\nDataType=7\n[2000]\nParameterName=X\nDataType=5\n").outcome =
        .ok ⟨[⟨"2000sub1", 1, [⟨"datatype", "DataType", "7", 2⟩]⟩,
          ⟨"2000", 3, [⟨"datatype", "DataType", "5", 5⟩,
            ⟨"parametername", "ParameterName", "X", 4⟩]⟩]⟩ := by
    decide +kernel
  have hd : (Dictionary.ofText "[2000]\nParameterName=X\nDataType=5\n" none).outcome =
      .ok (.insert .empty
        (.plain { Variable.blank "X" 0x2000 0 with dataType := some .unsigned8 })) := by
    decide +kernel
  obtain ⟨-, hsame⟩ := left_out_unless_faulty hS hT (rfl : Sheet.sections _ = [] ++ _ :: _) rfl
    (Section.about_of (h := .member 0x2000 1) (by decide) nofun) (.inr ⟨1, rfl⟩) hd rfl
  obtain ⟨e, he⟩ := Report.exists_of_isSome (r := (Dictionary.ofText
    "[2000sub1]\nDataType=7\n[2000]\nParameterName=X\nDataType=5\n" none).outcome)
      (by decide +kernel)
  refine ⟨_, _, hd, rfl, ?_⟩
  rw [he, (hsame e he).1]

/-- A member with an unknown access and a list of names with a malformed count are not left out:
either makes the text fail. -/
theorem left_out_unless_faulty_badAccess : ∃ (text : String) (S : Sheet) (t u : Section)
    (d : Dictionary) (v : Variable), text = "[2000]\nParameterName=X\nDataType=5\n" ∧
    (Sheet.ofText text).outcome = .ok S ∧
    (Dictionary.ofText text none).outcome = .ok d ∧ d.find? 0x2000 = some (.plain v) ∧
    (Sheet.ofText (text ++ "[2000sub1]\nAccessType=zz\n")).outcome = .ok ⟨S.sections ++ [t]⟩ ∧
    t.About (.member 0x2000 1) ∧
    (Dictionary.ofText (text ++ "[2000sub1]\nAccessType=zz\n") none).outcome =
      .error (.badLiteral ⟨0x2000, 1⟩ .accessType "zz") ∧
    (Sheet.ofText (text ++ "[2000Name]\nNrOfEntries=x\n")).outcome = .ok ⟨S.sections ++ [u]⟩ ∧
    u.About (.nameList 0x2000) ∧
    (Dictionary.ofText (text ++ "[2000Name]\nNrOfEntries=x\n") none).outcome =
      .error (.malformed 5 .nameCount) := by
  refine ⟨_, ⟨[⟨"2000", 1, [⟨"datatype", "DataType", "5", 3⟩,
      ⟨"parametername", "ParameterName", "X", 2⟩]⟩]⟩,
    ⟨"2000sub1", 4, [⟨"accesstype", "AccessType", "zz", 5⟩]⟩,
    ⟨"2000Name", 4, [⟨"nrofentries", "NrOfEntries", "x", 5⟩]⟩,
    .insert .empty (.plain { Variable.blank "X" 0x2000 0 with dataType := some .unsigned8 }),
    { Variable.blank "X" 0x2000 0 with dataType := some .unsigned8 }, rfl,
    by decide +kernel, by decide +kernel, rfl, by decide +kernel,
    Section.about_of (by decide) nofun, by decide +kernel, by decide +kernel,
    Section.about_of (by decide) nofun, by decide +kernel⟩

end DataSheet
