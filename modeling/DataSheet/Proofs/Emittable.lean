/-
**When declarations can be emitted.**

Emitting checks the settings, then that no two constants share an identifier, then that each
variable has a type, and only then writes.  The conditions are stated here apart from the checks,
and so is the reason that is given where one of them does not hold: the first of them in this order,
and of several constants that violate it the first.

Main definitions:

* `Identifier.Plain`, `Identifier.Free`, `Identifier.Leads` — a text is an identifier, may name a
  function, leads to a module;
* `FirstUntyped` — the first constant whose variable has no type;
* `Dictionary.Emittable`, `Dictionary.Refused` — the declarations can be emitted, or there is a
  first reason why not.

Main results:

* `Identifier.isFree_iff`, `Identifier.isPath_iff` — the checks of the settings decide what they
  are for;
* `Dictionary.outcome_render_of_refused`, `Dictionary.isText_of_emittable` — the outcome of
  rendering, with the reason and without one;
* `emit_all_or_nothing` — **emitting writes the whole text exactly if the declarations can be
  emitted, and nothing otherwise**.
-/

import DataSheet.Proofs.Emitted

set_option relaxedAutoImplicit false
set_option autoImplicit false

namespace DataSheet

/-! ### Texts that may stand as they are -/

namespace Identifier

/-- The text is an identifier: letters, digits and underscores with no digit in front, and not a
lone underscore. -/
def Plain (s : List Char) : Prop :=
  ∃ c rest, s = c :: rest ∧ (c.isAlpha ∨ c = '_') ∧ (∀ x ∈ rest, x.isAlphanum ∨ x = '_') ∧
    s ≠ ['_']

/-- The text is an identifier and no keyword. -/
def Free (name : String) : Prop := Plain name.toList ∧ name ∉ keywords

/-- The text consists of identifiers with double colons between them, none of them a keyword but
for those that may stand in a path. -/
def Leads (path : String) : Prop :=
  ∃ parts : List (List Char), parts ≠ [] ∧ path.toList = "::".toList.intercalate parts ∧
    ∀ p ∈ parts, Plain p ∧
      (String.ofList p ∈ keywords → String.ofList p ∈ ["crate", "self", "super"])

theorem isPlain_iff {s : List Char} : isPlain s ↔ Plain s := by
  cases s with
  | nil =>
      constructor
      · intro h
        cases h
      · rintro ⟨c, rest, h, -⟩
        cases h
  | cons c rest =>
      have hlone : (c == '_' && rest.isEmpty) = false ↔ c :: rest ≠ ['_'] := by
        cases rest <;> simp
      have hpart : rest.all isPart ↔ ∀ x ∈ rest, x.isAlphanum ∨ x = '_' := by
        simp [isPart]
      unfold isPlain Plain
      rw [Bool.and_eq_true, Bool.and_eq_true, Bool.not_eq_true', hlone, hpart, Bool.or_eq_true,
        beq_iff_eq, and_assoc]
      constructor
      · intro h
        exact ⟨c, rest, rfl, h⟩
      · rintro ⟨_, _, h, hrest⟩
        cases h
        exact hrest

theorem isFree_iff {name : String} : isFree name ↔ Free name := by
  unfold isFree Free
  rw [Bool.and_eq_true, isPlain_iff, Bool.not_eq_true', ← Bool.not_eq_true,
    List.contains_iff_mem]

theorem isSegment_iff {s : List Char} :
    isSegment s ↔ Plain s ∧
      (String.ofList s ∈ keywords → String.ofList s ∈ ["crate", "self", "super"]) := by
  unfold isSegment
  rw [Bool.and_eq_true, isPlain_iff, Bool.or_eq_true, Bool.not_eq_true', ← Bool.not_eq_true,
    List.contains_iff_mem, List.contains_iff_mem, ← imp_iff_not_or]
  rfl

/-- The parts of a text between double colons make up the text. -/
theorem intercalate_segments (s : List Char) : "::".toList.intercalate (segments s) = s := by
  induction s using segments.induct with
  | case1 => rfl
  | case2 s ih =>
      obtain ⟨t, ts, ht⟩ := List.exists_cons_of_ne_nil (segments_ne_nil s)
      rw [segments, ht, List.intercalate_cons_cons, ← ht, ih]
      rfl
  | case3 c s hne ih =>
      obtain ⟨t, ts, ht⟩ := List.exists_cons_of_ne_nil (segments_ne_nil s)
      rw [ht] at ih
      rw [segments.eq_3 c s hne, ht, List.modifyHead_cons]
      -- the character stands in front of the first part, whatever comes behind that part
      cases ts with
      | nil => simpa using ih
      | cons u us =>
          rw [List.intercalate_cons_cons] at ih ⊢
          rw [List.cons_append, List.cons_append, ih]

/-- A part without colons is a part of the text that starts with it. -/
theorem segments_append {p : List Char} (hp : ':' ∉ p) (s : List Char) :
    segments (p ++ s) = (segments s).modifyHead (p ++ ·) := by
  induction p with
  | nil =>
      obtain ⟨t, ts, ht⟩ := List.exists_cons_of_ne_nil (segments_ne_nil s)
      rw [List.nil_append, ht]
      rfl
  | cons c p ih =>
      rw [List.mem_cons, not_or] at hp
      have hc : ∀ r, c :: (p ++ s) ≠ ':' :: ':' :: r := by
        intro r h
        exact hp.1 (List.cons.inj h).1.symm
      obtain ⟨t, ts, ht⟩ := List.exists_cons_of_ne_nil (segments_ne_nil s)
      rw [List.cons_append, segments.eq_3 c (p ++ s) (fun r hc' hr => hc r (by rw [hc', hr])),
        ih hp.2, ht]
      rfl

/-- A text put together from parts without colons has these parts. -/
theorem segments_intercalate {parts : List (List Char)} (hne : parts ≠ [])
    (hparts : ∀ p ∈ parts, ':' ∉ p) : segments ("::".toList.intercalate parts) = parts := by
  induction parts with
  | nil => exact absurd rfl hne
  | cons p parts ih =>
      have hp := hparts p List.mem_cons_self
      have hrest := fun q hq => hparts q (List.mem_cons_of_mem p hq)
      cases parts with
      | nil =>
          have hone := segments_append hp []
          rw [List.append_nil] at hone
          rw [List.intercalate_singleton, hone]
          simp [segments]
      | cons q parts =>
          rw [List.intercalate_cons_cons, List.append_assoc, segments_append hp]
          change (segments (':' :: ':' :: "::".toList.intercalate (q :: parts))).modifyHead _ = _
          rw [segments, ih (List.cons_ne_nil q parts) hrest, List.modifyHead_cons,
            List.append_nil]

theorem Plain.not_mem_colon {s : List Char} (h : Plain s) : ':' ∉ s := by
  obtain ⟨c, rest, rfl, hc, hrest, -⟩ := h
  intro hmem
  rcases List.mem_cons.1 hmem with rfl | hmem
  · revert hc
    decide
  · have := hrest ':' hmem
    revert this
    decide

theorem isPath_iff {path : String} : isPath path ↔ Leads path := by
  unfold isPath Leads
  rw [List.all_eq_true]
  constructor
  · intro h
    exact ⟨segments path.toList, segments_ne_nil _, (intercalate_segments _).symm,
      fun p hp => isSegment_iff.1 (h p hp)⟩
  · rintro ⟨parts, hne, hpath, hparts⟩ p hp
    rw [hpath, segments_intercalate hne fun q hq => (hparts q hq).1.not_mem_colon] at hp
    exact isSegment_iff.2 (hparts p hp)

end Identifier

theorem Settings.check_eq_ok_iff {c : Settings} :
    c.check = .ok () ↔ Identifier.Free c.builderName ∧ Identifier.Leads c.modulePath := by
  rw [← Identifier.isFree_iff, ← Identifier.isPath_iff]
  unfold check
  cases Identifier.isFree c.builderName <;> cases Identifier.isPath c.modulePath <;> simp

/-! ### Defaults of variables -/

/-- The first constant whose variable has no type. -/
def FirstUntyped (ds : List Declaration) (x : Declaration) : Prop :=
  ∃ before after, ds = before ++ x :: after ∧ x.subject.dataType = none ∧
    ∀ b ∈ before, b.subject.dataType ≠ none

/-- Where a variable has no type, there is a first one. -/
theorem exists_firstUntyped {ds : List Declaration}
    (h : ¬∀ x ∈ ds, x.subject.dataType ≠ none) : ∃ x, FirstUntyped ds x := by
  push Not at h
  obtain ⟨d, hd, hnone⟩ := h
  cases hfind : ds.find? (fun x => x.subject.dataType = none) with
  | none =>
      have := List.find?_eq_none.1 hfind d hd
      simp [hnone] at this
  | some x =>
      obtain ⟨hx, before, after, hds, hbefore⟩ := List.find?_eq_some_iff_append.1 hfind
      exact ⟨x, before, after, hds, by simpa using hx, fun b hb => by simpa using hbefore b hb⟩

theorem defaultLiteral_of_untyped {v : Variable} (h : v.dataType = none) :
    defaultLiteral v = .error (.untyped v.address) := by
  unfold defaultLiteral
  rw [h]

theorem exists_defaultLiteral {v : Variable} (h : v.dataType ≠ none) :
    ∃ literal, defaultLiteral v = .ok literal := by
  obtain ⟨type, htype⟩ := Option.ne_none_iff_exists'.1 h
  unfold defaultLiteral
  rw [htype]
  cases v.defaultValue with
  | none => exact ⟨_, rfl⟩
  | some x =>
      dsimp only
      split
      · exact ⟨_, rfl⟩
      · exact ⟨_, rfl⟩

/-- Where all variables have types, all defaults can be written. -/
theorem exists_constants {ds : List Declaration} (h : ∀ x ∈ ds, x.subject.dataType ≠ none) :
    ∃ ks, ds.mapM Declaration.constant = .ok ks := by
  induction ds with
  | nil => exact ⟨[], rfl⟩
  | cons d ds ih =>
      obtain ⟨literal, hliteral⟩ := exists_defaultLiteral (h d List.mem_cons_self)
      obtain ⟨ks, hks⟩ := ih fun x hx => h x (List.mem_cons_of_mem d hx)
      have hconstant : d.constant = .ok ⟨d.identifier, d.subject.index, d.subject.subindex,
          literal⟩ := by
        rw [Declaration.constant, hliteral]
        rfl
      refine ⟨⟨d.identifier, d.subject.index, d.subject.subindex, literal⟩ :: ks, ?_⟩
      rw [List.mapM_cons, hconstant, hks]
      rfl

/-- Writing defaults stops at the first variable without a type. -/
theorem constants_of_firstUntyped {ds : List Declaration} {x : Declaration}
    (h : FirstUntyped ds x) :
    ds.mapM Declaration.constant = .error (.untyped x.subject.address) := by
  obtain ⟨before, after, rfl, hx, hbefore⟩ := h
  obtain ⟨ks, hks⟩ := exists_constants hbefore
  rw [List.mapM_append, hks, List.mapM_cons, Declaration.constant, defaultLiteral_of_untyped hx]
  rfl

/-! ### Declarations that can be emitted -/

namespace Dictionary

/-- The declarations of a dictionary can be emitted under the settings `c`. -/
structure Emittable (d : Dictionary) (c : Settings) : Prop where
  builder : Identifier.Free c.builderName
  path : Identifier.Leads c.modulePath
  distinct : ((d.declarations c).map Declaration.identifier).Nodup
  typed : ∀ x ∈ d.declarations c, x.subject.dataType ≠ none

/-- The first reason why the declarations of a dictionary cannot be emitted. -/
inductive Refused (d : Dictionary) (c : Settings) : Fault → Prop
  | builder : ¬Identifier.Free c.builderName →
      Refused d c (.badSetting .builderName c.builderName)
  | path : Identifier.Free c.builderName → ¬Identifier.Leads c.modulePath →
      Refused d c (.badSetting .modulePath c.modulePath)
  | clash {x y : Declaration} : Identifier.Free c.builderName → Identifier.Leads c.modulePath →
      EarliestClash (d.declarations c) x y →
      Refused d c (.duplicateIdentifier y.identifier x.subject.address y.subject.address)
  | untyped {x : Declaration} : Identifier.Free c.builderName → Identifier.Leads c.modulePath →
      ((d.declarations c).map Declaration.identifier).Nodup →
      FirstUntyped (d.declarations c) x → Refused d c (.untyped x.subject.address)

/-- The text of the declarations, with the lines of every constant. -/
def IsText (d : Dictionary) (c : Settings) (text : String) : Prop :=
  ∃ ks, d.constants c = .ok ks ∧
    text = textOfLines (c.preamble ++ ks.flatMap Constant.lines ++ d.builder c)

variable {d : Dictionary} {c : Settings}

/-- Declarations that cannot be emitted are refused for a first reason. -/
theorem exists_refused (h : ¬d.Emittable c) : ∃ f, d.Refused c f := by
  by_cases hbuilder : Identifier.Free c.builderName
  swap
  · exact ⟨_, .builder hbuilder⟩
  by_cases hpath : Identifier.Leads c.modulePath
  swap
  · exact ⟨_, .path hbuilder hpath⟩
  by_cases hdistinct : ((d.declarations c).map Declaration.identifier).Nodup
  swap
  · obtain ⟨x, y, hclash⟩ := exists_earliestClash hdistinct
    exact ⟨_, .clash hbuilder hpath hclash⟩
  obtain ⟨x, hx⟩ := exists_firstUntyped fun htyped => h ⟨hbuilder, hpath, hdistinct, htyped⟩
  exact ⟨_, .untyped hbuilder hpath hdistinct hx⟩

theorem Refused.not_emittable {f : Fault} (h : d.Refused c f) : ¬d.Emittable c := by
  intro he
  cases h with
  | builder hbuilder => exact hbuilder he.builder
  | path _ hpath => exact hpath he.path
  | clash _ _ hclash => exact hclash.not_nodup he.distinct
  | untyped _ _ _ hx =>
      obtain ⟨before, after, hds, hnone, -⟩ := hx
      refine he.typed _ ?_ hnone
      rw [hds]
      exact List.mem_append_right before List.mem_cons_self

/-- Declarations are refused for no reason but the first. -/
theorem outcome_render_of_refused {f : Fault} (h : d.Refused c f) :
    (d.render c).outcome = .error f := by
  unfold render
  rw [Report.outcome_bind, Report.outcome_ofExcept]
  cases h with
  | builder hbuilder =>
      rw [← Identifier.isFree_iff] at hbuilder
      unfold Settings.check
      rw [if_pos (by simpa using hbuilder)]
      rfl
  | path hbuilder hpath =>
      rw [← Identifier.isPath_iff] at hpath
      rw [← Identifier.isFree_iff] at hbuilder
      unfold Settings.check
      rw [if_neg (by simpa using hbuilder), if_pos (by simpa using hpath)]
      rfl
  | clash hbuilder hpath hclash =>
      rw [Settings.check_eq_ok_iff.2 ⟨hbuilder, hpath⟩]
      change Report.outcome (d.project c >>= _) = _
      rw [Report.outcome_bind, outcome_project, InUse.foldlM_take_of_clash hclash]
      rfl
  | untyped hbuilder hpath hdistinct hx =>
      rw [Settings.check_eq_ok_iff.2 ⟨hbuilder, hpath⟩]
      change Report.outcome (d.project c >>= _) = _
      rw [Report.outcome_bind, outcome_project_eq_ok_iff.2 hdistinct]
      change Report.outcome (Report.ofExcept _ >>= _) = _
      rw [Report.outcome_bind, Report.outcome_ofExcept, Declaration.mapM_lines,
        constants_of_firstUntyped hx]
      rfl

/-- Declarations that can be emitted are rendered as their text. -/
theorem isText_of_emittable (h : d.Emittable c) :
    ∃ text, d.IsText c text ∧ (d.render c).outcome = .ok text := by
  obtain ⟨ks, hks⟩ := exists_constants h.typed
  refine ⟨_, ⟨ks, hks, rfl⟩, render_eq_ok_iff.2 ?_⟩
  exact ⟨Settings.check_eq_ok_iff.2 ⟨h.builder, h.path⟩, outcome_project_eq_ok_iff.2 h.distinct,
    ks, hks, rfl⟩

theorem emit_of_refused {f : Fault} (h : d.Refused c f) (s : Sink) :
    (d.emit c s).1 = s ∧ (d.emit c s).2.outcome = .error f := by
  unfold emit
  dsimp only
  rw [outcome_render_of_refused h]
  exact ⟨rfl, rfl⟩

theorem emit_of_refusing (h : d.Emittable c) {s : Sink} (hs : s.refusing = true) :
    (d.emit c s).1 = s ∧ (d.emit c s).2.outcome = .error .refused := by
  obtain ⟨text, -, htext⟩ := isText_of_emittable h
  unfold emit Sink.write?
  dsimp only
  rw [htext, hs]
  exact ⟨rfl, rfl⟩

theorem emit_of_emittable (h : d.Emittable c) {s : Sink} (hs : s.refusing = false) :
    ∃ text, d.IsText c text ∧ (d.emit c s).1 = { s with taken := s.taken ++ [text] } ∧
      (d.emit c s).2.outcome = .ok () := by
  obtain ⟨text, hlines, htext⟩ := isText_of_emittable h
  refine ⟨text, hlines, ?_⟩
  unfold emit Sink.write?
  dsimp only
  rw [htext, hs]
  exact ⟨rfl, rfl⟩

end Dictionary

/-- **Emitting is all or nothing.**  The whole text is written in one piece exactly if the
declarations can be emitted and the sink takes it.  In all other cases nothing is written, and the
fault is the first reason against the declarations, or the refusal of the sink if there is none.  A
sink refuses exactly what another one would take. -/
theorem emit_all_or_nothing (d : Dictionary) (c : Settings) (s : Sink) :
    ((∃ text, d.IsText c text ∧ (d.emit c s).1 = { s with taken := s.taken ++ [text] } ∧
        (d.emit c s).2.outcome = .ok ()) ↔ d.Emittable c ∧ s.refusing = false) ∧
      ((d.emit c s).1 = s ∧ (∃ f, (d.emit c s).2.outcome = .error f) ↔
        ¬(d.Emittable c ∧ s.refusing = false)) ∧
      (∀ f, (d.emit c s).2.outcome = .error f ↔
        d.Refused c f ∨ d.Emittable c ∧ s.refusing = true ∧ f = .refused) ∧
      ((d.emit c s).2.outcome = .error .refused ↔
        s.refusing = true ∧ (d.emit c .accepting).2.outcome = .ok ()) := by
  by_cases he : d.Emittable c
  swap
  · -- one of the conditions does not hold, whatever the sink
    obtain ⟨g, hg⟩ := Dictionary.exists_refused he
    obtain ⟨hsink, houtcome⟩ := Dictionary.emit_of_refused hg s
    have hother := (Dictionary.emit_of_refused hg .accepting).2
    refine ⟨?_, ?_, fun f => ?_, ?_⟩
    · simp [houtcome, he]
    · simp [hsink, houtcome, he]
    · constructor
      · intro hf
        rw [houtcome] at hf
        cases hf
        exact .inl hg
      · rintro (hf | ⟨hf, -⟩)
        · exact (Dictionary.emit_of_refused hf s).2
        · exact absurd hf he
    · rw [houtcome, hother]
      constructor
      · intro hf
        cases hf
        cases hg
      · rintro ⟨-, hf⟩
        cases hf
  have hnone : ∀ f, ¬d.Refused c f := fun f hf => hf.not_emittable he
  obtain ⟨-, -, -, hother⟩ := Dictionary.emit_of_emittable he (s := .accepting) rfl
  cases hs : s.refusing with
  | true =>
      obtain ⟨hsink, houtcome⟩ := Dictionary.emit_of_refusing he hs
      refine ⟨?_, ?_, fun f => ?_, ?_⟩
      · simp [houtcome]
      · simp [hsink, houtcome]
      · simp [houtcome, he, hnone, eq_comm]
      · simp [houtcome, hother]
  | false =>
      obtain ⟨text, htext, hsink, houtcome⟩ := Dictionary.emit_of_emittable he hs
      rw [hs] at hsink
      refine ⟨?_, ?_, fun f => ?_, ?_⟩
      · simp only [he, and_self, iff_true]
        exact ⟨text, htext, hsink, houtcome⟩
      · simp [houtcome, he]
      · simp [houtcome, hnone]
      · simp [houtcome]

end DataSheet
