/-
**When two names have one identifier.**

An identifier is made from a name by dropping some characters, taking letters in upper case and
replacing others, and then from the whole by putting underscores where something is missing.  Behind
a start of some substance the last step joins no names, so that two names collide exactly if the
same is left of both.

Main definitions:

* `Identifier.residue` — what is left of a text, with its letters as they are or in another case;
* `Identifier.Substantial` — what is put before names can start an identifier by itself;
* `Dictionary.NamesCollide` — the same is left of two names in a dictionary.

Main results:

* `Identifier.normal_eq_residue`, `Identifier.normal_upper_eq_residue` — how identifiers are made,
  in these terms;
* `Identifier.complete_guard_append_injective` — the underscores that are put in join no names;
* `Identifier.ofName_ofName` — the identifier of an identifier is the same, with nothing before it;
* `identifiers_collide_exactly` — **two names have one identifier exactly if the same is left of
  both**, and emitting tells so.
-/

import DataSheet.Proofs.Items

set_option relaxedAutoImplicit false
set_option autoImplicit false

namespace DataSheet

/-! ### Letters in upper case -/

namespace Text

theorem isUpper_iff {c : Char} : c.isUpper ↔ 65 ≤ c.toNat ∧ c.toNat ≤ 90 := by
  unfold Char.isUpper
  rw [decide_eq_true_eq, ge_iff_le, UInt32.le_iff_toNat_le, UInt32.le_iff_toNat_le]
  rfl

theorem isDigit_iff {c : Char} : c.isDigit ↔ 48 ≤ c.toNat ∧ c.toNat ≤ 57 := by
  unfold Char.isDigit
  rw [Bool.and_eq_true, decide_eq_true_eq, decide_eq_true_eq, ge_iff_le, UInt32.le_iff_toNat_le,
    UInt32.le_iff_toNat_le]
  rfl

/-- A letter in upper case is a letter. -/
theorem isAlpha_toUpper {c : Char} (h : c.isAlpha) : c.toUpper.isAlpha := by
  unfold Char.isAlpha at h ⊢
  rw [Bool.or_eq_true, isUpper_iff, isLower_iff] at h ⊢
  rw [toNat_toUpper]
  split <;> omega

/-- Only letters in lower case have another upper case. -/
theorem toUpper_of_not_isLower {c : Char} (h : ¬c.isLower) : c.toUpper = c := by
  rw [isLower_iff] at h
  rw [← Char.toNat_inj, toNat_toUpper, if_neg h]

theorem toUpper_of_not_isAlpha {c : Char} (h : ¬c.isAlpha) : c.toUpper = c := by
  unfold Char.isAlpha at h
  rw [Bool.or_eq_true, not_or] at h
  exact toUpper_of_not_isLower h.2

end Text

namespace Identifier

/-! ### What is left of a text -/

/-- What is left of a text: parentheses and percent signs are dropped, letters are taken as `letter`
gives them, digits and underscores stay, and all other characters become underscores. -/
def residue (letter : Char → Char) (s : List Char) : List Char :=
  s.filterMap fun c =>
    if c = '(' ∨ c = ')' ∨ c = '%' then none
    else if c.isAlpha then some (letter c)
    else if c.isDigit ∨ c = '_' then some c
    else some '_'

/-- What is left of a name. -/
def residueOfName (name : String) : List Char := residue Char.toUpper name.toList

/-- Something is left of the text, and more than a lone underscore. -/
def Substantial (start : String) : Prop :=
  residue id start.toList ≠ [] ∧ residue id start.toList ≠ ['_']

instance (start : String) : Decidable (Substantial start) :=
  inferInstanceAs (Decidable (_ ∧ _))

theorem isDropped_eq_true_iff {c : Char} : isDropped c ↔ c = '(' ∨ c = ')' ∨ c = '%' := by
  simp [isDropped, or_assoc]

theorem not_isDropped_of_isAlpha {c : Char} (h : c.isAlpha) : ¬isDropped c := by
  rw [isDropped_eq_true_iff]
  rintro (rfl | rfl | rfl) <;> revert h <;> decide

/-- What is left of a text whose letters are replaced by letters, and nothing else is. -/
theorem normal_map_eq_residue {letter : Char → Char}
    (hletter : ∀ c, c.isAlpha → (letter c).isAlpha) (hother : ∀ c, ¬c.isAlpha → letter c = c)
    (s : List Char) : normal (s.map letter) = residue letter s := by
  unfold normal residue
  rw [List.flatMap_map, List.filterMap_eq_flatMap_toList]
  refine List.flatMap_congr fun c _ => ?_
  unfold keep isPart Char.isAlphanum
  by_cases halpha : c.isAlpha
  · rw [if_neg (not_isDropped_of_isAlpha (hletter c halpha)),
      if_neg (mt isDropped_eq_true_iff.2 (not_isDropped_of_isAlpha halpha))]
    simp [halpha, hletter c halpha]
  · rw [hother c halpha]
    by_cases hdropped : isDropped c
    · rw [if_pos hdropped, if_pos (isDropped_eq_true_iff.1 hdropped)]
      rfl
    · rw [if_neg hdropped, if_neg (mt isDropped_eq_true_iff.2 hdropped)]
      by_cases hdigit : c.isDigit ∨ c = '_' <;> simp [halpha, hdigit]

/-- What is left of a text, with its case kept. -/
theorem normal_eq_residue (s : List Char) : normal s = residue id s := by
  have h : normal (s.map id) = residue id s :=
    normal_map_eq_residue (fun _ h => h) (fun _ _ => rfl) s
  rwa [List.map_id] at h

/-- What is left of a text in upper case. -/
theorem normal_upper_eq_residue (s : List Char) :
    normal (Text.upper s) = residue Char.toUpper s :=
  normal_map_eq_residue (fun _ => Text.isAlpha_toUpper) (fun _ => Text.toUpper_of_not_isAlpha) s

/-- The identifier of a name, in terms of what is left of it. -/
theorem ofName_eq (start name : String) :
    ofName start name =
      String.ofList (complete (guard (residue id start.toList ++ residueOfName name))) := by
  rw [ofName, normal_eq_residue, normal_upper_eq_residue]
  rfl

/-! ### The underscores that are put in -/

theorem complete_of_two (c d : Char) (s : List Char) : complete (c :: d :: s) = c :: d :: s := by
  rw [complete, if_neg (by simp)]

/-- Behind something that is more than a lone underscore, the underscores that are put in join no
texts: the guard looks at the first character only, and nothing is too short. -/
theorem complete_guard_append_injective {p : List Char} (hnil : p ≠ []) (hlone : p ≠ ['_']) :
    Function.Injective fun s => complete (guard (p ++ s)) := by
  obtain ⟨c, p, rfl⟩ := List.exists_cons_of_ne_nil hnil
  intro s t h
  dsimp only [List.cons_append] at h
  rw [guard, guard] at h
  split at h
  next =>
    rw [complete_of_two, complete_of_two] at h
    have hsame : ('_' :: c :: p) ++ s = ('_' :: c :: p) ++ t := h
    exact List.append_cancel_left hsame
  next =>
    have hlong : ∀ u, complete (c :: (p ++ u)) = c :: (p ++ u) := by
      intro u
      rw [complete, if_neg]
      rintro (h | h)
      · cases h
      · obtain ⟨rfl, hrest⟩ := List.cons.inj h
        exact hlone (congrArg ('_' :: ·) (List.append_eq_nil_iff.1 hrest).1)
    rw [hlong, hlong] at h
    have hsame : (c :: p) ++ s = (c :: p) ++ t := h
    exact List.append_cancel_left hsame

/-- **Behind a start of some substance two names have one identifier exactly if the same is left of
both.** -/
theorem ofName_eq_iff {start : String} (h : Substantial start) {a b : String} :
    ofName start a = ofName start b ↔ residueOfName a = residueOfName b := by
  rw [ofName_eq, ofName_eq, String.ofList_inj]
  exact (complete_guard_append_injective h.1 h.2).eq_iff

-- behind an underscore nothing and another underscore are completed alike
example : ofName "_" "" = ofName "_" "_" ∧ residueOfName "" ≠ residueOfName "_" := by decide

/-! ### The identifier of an identifier -/

/-- A text of parts without lower case is left as it is, in upper case as well. -/
theorem residue_toUpper_of_parts {s : List Char} (h : ∀ c ∈ s, isPart c ∧ ¬c.isLower) :
    residue Char.toUpper s = s := by
  have hupper : Text.upper s = s := by
    have hsame : ∀ c ∈ s, c.toUpper = id c := fun c hc => Text.toUpper_of_not_isLower (h c hc).2
    rw [Text.upper, List.map_congr_left hsame, List.map_id]
  have hkeep : ∀ c ∈ s, keep c = [c] := by
    intro c hc
    have hpart := (h c hc).1
    have hdropped : ¬isDropped c := by
      rw [isDropped_eq_true_iff]
      rintro (rfl | rfl | rfl) <;> revert hpart <;> decide
    rw [keep, if_neg hdropped, if_pos hpart]
  rw [← normal_upper_eq_residue, hupper, normal, List.flatMap_congr hkeep, List.flatMap_singleton']

theorem mem_complete_guard {s : List Char} {c : Char} (h : c ∈ complete (guard s)) :
    c = '_' ∨ c ∈ s := by
  have hguard : c ∈ guard s → c = '_' ∨ c ∈ s := by
    cases s with
    | nil => exact .inr
    | cons d s =>
        rw [guard]
        split
        · exact fun h => List.mem_cons.1 h
        · exact .inr
  unfold complete at h
  split at h
  · exact .inl (by simpa using h)
  · exact hguard h

/-- Nothing is put into an identifier. -/
theorem Plain.complete_guard {s : List Char} (h : Plain s) : complete (guard s) = s := by
  obtain ⟨c, rest, rfl, hc, -, hlone⟩ := h
  have hdigit : ¬c.isDigit := by
    intro hdigit
    rw [Text.isDigit_iff] at hdigit
    unfold Char.isAlpha at hc
    rw [Bool.or_eq_true, Text.isUpper_iff, Text.isLower_iff] at hc
    rcases hc with hc | rfl
    · omega
    · revert hdigit
      decide
  rw [guard, if_neg hdigit, complete, if_neg]
  rintro (h | h)
  · cases h
  · exact hlone h

/-- **The identifier of an identifier is the same**, with nothing before it. -/
theorem ofName_ofName (name : String) : ofName "" (ofName "" name) = ofName "" name := by
  have hparts : ∀ c ∈ (ofName "" name).toList, isPart c ∧ ¬c.isLower := by
    intro c hc
    rw [ofName, String.toList_ofList] at hc
    rcases mem_complete_guard hc with rfl | hc
    · decide
    · exact ⟨isPart_of_mem_normal hc, not_isLower_of_mem_normal_upper hc⟩
  have hstart : residue id "".toList = [] := rfl
  rw [ofName_eq "" (ofName "" name), residueOfName, residue_toUpper_of_parts hparts, hstart,
    List.nil_append, (plain_ofName "" name).complete_guard, String.ofList_toList]

end Identifier

/-! ### Names that collide -/

/-- The same is left of two of the names under which the variables of a dictionary are declared. -/
def Dictionary.NamesCollide (d : Dictionary) (c : Settings) : Prop :=
  ∃ (i j : Nat) (a b : String), i < j ∧ (d.declaredNames c)[i]? = some a ∧
    (d.declaredNames c)[j]? = some b ∧ Identifier.residueOfName a = Identifier.residueOfName b

/-- Names collide exactly if the identifiers that are made from them are not distinct. -/
theorem Dictionary.namesCollide_iff {d : Dictionary} {c : Settings}
    (h : Identifier.Substantial c.constantStart) :
    d.NamesCollide c ↔ ¬((d.declarations c).map Declaration.identifier).Nodup := by
  rw [identifiers_eq, List.Nodup, List.pairwise_map, List.pairwise_iff_getElem]
  unfold NamesCollide
  constructor
  · rintro ⟨i, j, a, b, hij, ha, hb, hsame⟩ hdistinct
    obtain ⟨hi, rfl⟩ := List.getElem?_eq_some_iff.1 ha
    obtain ⟨hj, rfl⟩ := List.getElem?_eq_some_iff.1 hb
    exact hdistinct i j hi hj hij ((Identifier.ofName_eq_iff h).2 hsame)
  · intro hclash
    push Not at hclash
    obtain ⟨i, j, hi, hj, hij, hsame⟩ := hclash
    exact ⟨i, j, _, _, hij, List.getElem?_eq_getElem hi, List.getElem?_eq_getElem hj,
      (Identifier.ofName_eq_iff h).1 hsame⟩

/-- With settings that pass, emitting tells a clash exactly if the identifiers are not distinct,
whether or not the sink would take the text. -/
theorem Dictionary.emit_duplicate_iff {d : Dictionary} {c : Settings} {s : Sink}
    (hcheck : c.check = .ok ()) :
    (∃ i x y, (d.emit c s).2.outcome = .error (.duplicateIdentifier i x y)) ↔
      ¬((d.declarations c).map Declaration.identifier).Nodup := by
  obtain ⟨hbuilder, hpath⟩ := Settings.check_eq_ok_iff.1 hcheck
  constructor
  · rintro ⟨i, x, y, hfault⟩ hnodup
    by_cases he : d.Emittable c
    · cases hs : s.refusing with
      | true =>
          rw [(emit_of_refusing he hs).2] at hfault
          cases hfault
      | false =>
          obtain ⟨-, -, -, hdone⟩ := emit_of_emittable he hs
          rw [hdone] at hfault
          cases hfault
    · obtain ⟨f, hf⟩ := exists_refused he
      rw [(emit_of_refused hf s).2] at hfault
      cases hfault
      cases hf with
      | clash _ _ hclash => exact hclash.not_nodup hnodup
  · intro hclash
    obtain ⟨x, y, hearliest⟩ := exists_earliestClash hclash
    exact ⟨_, _, _, (emit_of_refused (.clash hbuilder hpath hearliest) s).2⟩

/-- **When two names have one identifier.**  Whatever is put before it, every name has an
identifier.  Behind a start of some substance two names have the same one exactly if the same is
left of both, so with settings that pass emitting tells a clash exactly for dictionaries with two
such names, for every sink.  With nothing before it, the identifier of an identifier is the same. -/
theorem identifiers_collide_exactly (c : Settings) :
    (∀ start name, Identifier.Plain (Identifier.ofName start name).toList) ∧
      (Identifier.Substantial c.constantStart →
        (∀ a b, Identifier.ofName c.constantStart a = Identifier.ofName c.constantStart b ↔
          Identifier.residueOfName a = Identifier.residueOfName b) ∧
        (c.check = .ok () → ∀ (d : Dictionary) (s : Sink),
          (∃ i x y, (d.emit c s).2.outcome = .error (.duplicateIdentifier i x y)) ↔
            d.NamesCollide c)) ∧
      ∀ name, Identifier.ofName "" (Identifier.ofName "" name) = Identifier.ofName "" name := by
  refine ⟨Identifier.plain_ofName, fun hstart => ⟨?_, ?_⟩, Identifier.ofName_ofName⟩
  · intro a b
    exact Identifier.ofName_eq_iff hstart
  · intro hcheck d s
    rw [Dictionary.emit_duplicate_iff hcheck, Dictionary.namesCollide_iff hstart]

/-- A space and a hyphen leave the same, so two variables that differ in these only cannot be
emitted together; a name without either differs from both. -/
theorem identifiers_collide_exactly_motorSpeed :
    Identifier.Substantial Settings.standard.constantStart ∧
      Settings.standard.check = .ok () ∧
      Identifier.ofName Settings.standard.constantStart "Motor speed" =
        Identifier.ofName Settings.standard.constantStart "motor-speed(%)" ∧
      Identifier.ofName Settings.standard.constantStart "Motor speed" ≠
        Identifier.ofName Settings.standard.constantStart "Motorspeed" ∧
      ∃ d, (Dictionary.ofText ("[2000]\nParameterName=Motor speed\nDataType=5\n" ++
          "[2001]\nParameterName=motor-speed(%)\nDataType=5\n") none).outcome = .ok d ∧
        ∀ s, ∃ i x y,
          (d.emit Settings.standard s).2.outcome = .error (.duplicateIdentifier i x y) := by
  have hstart : Identifier.Substantial Settings.standard.constantStart := by decide
  have hcheck : Settings.standard.check = .ok () := Settings.check_standard
  obtain ⟨hnames, hemit⟩ := (identifiers_collide_exactly Settings.standard).2.1 hstart
  refine ⟨hstart, hcheck, (hnames _ _).2 (by decide), mt (hnames _ _).1 (by decide),
    .insert (.insert .empty
      (.plain { Variable.blank "Motor speed" 0x2000 0 with dataType := some .unsigned8 }))
      (.plain { Variable.blank "motor-speed(%)" 0x2001 0 with dataType := some .unsigned8 }),
    by decide +kernel, fun s => (hemit hcheck _ s).2 ?_⟩
  exact ⟨0, 1, "Motor speed", "motor-speed(%)", by decide, by decide +kernel, by decide +kernel,
    by decide⟩

end DataSheet
