/-
**Data sheets in other words.**

Much of how a data sheet is written does not count: where its lines stand, and the case of letters
in its keys, but for the names of bit fields.  This module relates data sheets that say the same in
these words or others, and shows that they give the same dictionary.

Main definitions:

* `SameKey` — two spellings of one key;
* `Entry.Restates`, `Section.Restates`, `Sheet.Restates` — the same in other words.

Main results:

* `Section.Restates.sameAttributes` — what is restated gives the same attributes;
* `Sheet.Restates.result?_object` — and describes the same objects;
* `Sheet.Restates.result?_dictionary` — **data sheets that say the same give the same dictionary**,
  or both give none.
-/

import DataSheet.Proofs.Alike
import DataSheet.Proofs.Attributes
import DataSheet.Proofs.Commute
import DataSheet.Proofs.Letters

set_option relaxedAutoImplicit false
set_option autoImplicit false

namespace DataSheet

/-! ### Runs over related items -/

/-- Related items give related results, or some pair of them gives none. -/
theorem mapM_rel {α β γ δ : Type} {R : α → β → Prop} {Q : γ → δ → Prop} {f : α → Option γ}
    {g : β → Option δ} (hfg : ∀ a b, R a b → Option.Rel Q (f a) (g b)) {l : List α} {l' : List β}
    (h : List.Forall₂ R l l') : Option.Rel (List.Forall₂ Q) (l.mapM f) (l'.mapM g) := by
  induction h with
  | nil => exact .some .nil
  | @cons a b l l' hab _ ih =>
      have hfirst := hfg a b hab
      rw [List.mapM_cons, List.mapM_cons]
      generalize f a = c, g b = d at hfirst
      cases hfirst with
      | none => exact .none
      | some hcd =>
          generalize l.mapM f = cs, l'.mapM g = ds at ih
          cases ih with
          | none => exact .none
          | some hrest => exact .some (.cons hcd hrest)

/-- Runs over related items whose steps do the same. -/
theorem foldlM_rel {α β : Type} {R : α → α → Prop} {f g : β → α → Option β} {l l' : List α}
    (hl : List.Forall₂ R l l') (hfg : ∀ b x y, R x y → g b y = f b x) (b : β) :
    l'.foldlM g b = l.foldlM f b := by
  induction hl generalizing b with
  | nil => rfl
  | cons hxy _ ih =>
      rw [List.foldlM_cons, List.foldlM_cons, hfg b _ _ hxy]
      exact congrArg (f b _ >>= ·) (funext ih)

/-! ### Keys -/

/-- What the keys of bit fields start with, in lower case.  The name of the field stands behind. -/
def fieldStem : List Char := (foldKey (Field.bitDefinition.key ++ ".")).toList

/-- Two spellings of one key: the case of letters may differ, but not in the name of a bit field. -/
structure SameKey (key key' : String) : Prop where
  folded : foldKey key = foldKey key'
  field : fieldStem.isPrefixOf (foldKey key).toList →
    key.toList.drop fieldStem.length = key'.toList.drop fieldStem.length

theorem SameKey.refl (key : String) : SameKey key key := ⟨rfl, fun _ => rfl⟩

theorem foldKey_eq_iff {key key' : String} :
    foldKey key = foldKey key' ↔ Text.lower key.toList = Text.lower key'.toList :=
  String.ofList_inj

/-- The case of letters does not count in whole numbers. -/
theorem Literal.integer?_congr {s t : List Char} (h : Text.lower s = Text.lower t)
    (node : Option UInt8) : integer? node s = integer? node t := by
  have hlower : ∀ u, compact (Text.lower u) = compact u := by
    intro u
    unfold compact
    have hblank : (fun c => !Text.isBlank c) ∘ Char.toLower = fun c => !Text.isBlank c :=
      funext fun c => by simp
    rw [Text.lower, List.filter_map, hblank]
    exact Text.upper_lower _
  unfold integer?
  rw [← hlower s, h, hlower]

/-! ### Entries and sections -/

/-- The entry says the same: it has the same key, however spelled, and the same value. -/
structure Entry.Restates (e e' : Entry) : Prop where
  key : e.key = e'.key
  value : e.value = e'.value
  folded : foldKey e.spelling = foldKey e'.spelling
  field : fieldStem.isPrefixOf e.key.toList →
    e.spelling.toList.drop fieldStem.length = e'.spelling.toList.drop fieldStem.length

theorem SameKey.restates_ofLine {key key' : String} (h : SameKey key key') (value : String)
    (n n' : Nat) : (Entry.ofLine key value n).Restates (Entry.ofLine key' value n') :=
  ⟨h.folded, rfl, h.folded, h.field⟩

theorem Entry.Restates.integer? {e e' : Entry} (h : e.Restates e') : e'.integer? = e.integer? := by
  unfold Entry.integer?
  rw [h.value]

/-- The section has the same name and entries that say the same. -/
structure Section.Restates (s t : Section) : Prop where
  name : s.name = t.name
  entries : List.Forall₂ Entry.Restates s.entries t.entries

namespace Section.Restates

variable {s t : Section}

theorem entry? (h : s.Restates t) (key : String) :
    Option.Rel Entry.Restates (s.entry? key) (t.entry? key) :=
  Ascending.rel_find? (fun _ _ he => he.key) h.entries (foldKey key)

theorem value? (h : s.Restates t) (key : String) : t.value? key = s.value? key := by
  have hentry := h.entry? key
  unfold Section.value?
  generalize s.entry? key = o, t.entry? key = o' at hentry
  cases hentry with
  | none => rfl
  | some he => exact congrArg some he.value.symm

theorem has (h : s.Restates t) (key : String) : t.has key = s.has key := by
  have hentry := h.entry? key
  unfold Section.has
  generalize s.entry? key = o, t.entry? key = o' at hentry
  cases hentry <;> rfl

/-- Families have the same entries, and what is read off them is the same. -/
theorem map_family {β : Type} (h : s.Restates t) {stem : String} {f : String × Entry → β}
    (hf : ∀ e e', e.Restates e' → (foldKey stem).toList.isPrefixOf e.key.toList →
      f (String.ofList (e'.spelling.toList.drop (foldKey stem).toList.length), e') =
        f (String.ofList (e.spelling.toList.drop (foldKey stem).toList.length), e)) :
    (t.family stem).map f = (s.family stem).map f := by
  unfold Section.family
  rw [List.map_map, List.map_map]
  have hentries := h.entries
  generalize s.entries = es, t.entries = es' at hentries
  induction hentries with
  | nil => rfl
  | @cons e e' es es' he _ ih =>
      rw [List.filter_cons, List.filter_cons, he.key]
      split
      next hstem =>
        rw [List.map_cons, List.map_cons, ih]
        exact congrArg (· :: _) (hf e e' he (he.key ▸ hstem))
      next => exact ih

theorem labels (h : s.Restates t) : t.labels = s.labels := by
  refine h.map_family fun e e' he _ => ?_
  have hlower : Text.lower (e'.spelling.toList.drop
      (foldKey (Field.valueDescription.key ++ ".")).toList.length) =
      Text.lower (e.spelling.toList.drop
        (foldKey (Field.valueDescription.key ++ ".")).toList.length) := by
    unfold Text.lower
    rw [List.map_drop, List.map_drop]
    exact congrArg (List.drop _) (foldKey_eq_iff.1 he.folded).symm
  unfold rawValue?
  rw [String.toList_ofList, String.toList_ofList, Literal.integer?_congr hlower, he.value]

theorem bitFields (h : s.Restates t) : t.bitFields = s.bitFields := by
  refine h.map_family fun e e' he hstem => ?_
  have hfield := he.field hstem
  unfold fieldStem at hfield
  rw [hfield, he.value]

/-- What is restated gives the same attributes. -/
theorem sameAttributes (h : s.Restates t) : s.SameAttributes t where
  field f := h.value? f.key
  unit := h.value? "Unit"
  description := h.value? "Description"
  labels := h.labels
  bitFields := h.bitFields

theorem title (h : s.Restates t) : t.title = s.title := by
  unfold Section.title
  rw [h.value?, h.name]

theorem result?_parameterName (h : s.Restates t) :
    t.parameterName.result? = s.parameterName.result? := by
  unfold Report.result?
  rw [outcome_parameterName, outcome_parameterName, h.title]

/-! Faults name lines, so from here on only results are the same. -/

theorem result?_objectKind (h : s.Restates t) :
    t.objectKind.result? = s.objectKind.result? := by
  have hentry := h.entry? "ObjectType"
  unfold objectKind
  generalize s.entry? "ObjectType" = o, t.entry? "ObjectType" = o' at hentry
  cases hentry with
  | none => rfl
  | @some e e' he =>
      dsimp only
      rw [he.integer?, h.has]
      cases e.integer? with
      | none => rfl
      | some code =>
          dsimp only
          split
          · rfl
          · split <;> rfl

theorem result?_count {e e' : Entry} (h : e.Restates e') (how : Malformation) :
    (e'.count how).result? = (e.count how).result? := by
  unfold Entry.count
  rw [h.value]
  cases Literal.count? e'.value.toList <;> rfl

theorem result?_countMember (h : s.Restates t) (index : UInt16) :
    (t.countMember index).result? = (s.countMember index).result? := by
  have hentry := h.entry? "CompactSubObj"
  unfold countMember
  generalize s.entry? "CompactSubObj" = o, t.entry? "CompactSubObj" = o' at hentry
  cases hentry with
  | none => rfl
  | some he => simp only [Report.result?_bind, result?_count he]

theorem nameCount (h : s.Restates t) : t.nameCount.toOption = s.nameCount.toOption := by
  have hentry := h.entry? "NrOfEntries"
  unfold Section.nameCount
  generalize s.entry? "NrOfEntries" = o, t.entry? "NrOfEntries" = o' at hentry
  cases hentry with
  | none => rfl
  | some he => exact result?_count he .nameCount

theorem baudrate (h : s.Restates t) : t.baudrate.toOption = s.baudrate.toOption := by
  have hentry := h.entry? "Baudrate"
  unfold Section.baudrate
  generalize s.entry? "Baudrate" = o, t.entry? "Baudrate" = o' at hentry
  cases hentry with
  | none => rfl
  | @some e e' he =>
      dsimp only
      rw [he.integer?]
      cases e.integer? with
      | none => rfl
      | some n =>
          dsimp only
          split <;> rfl

theorem dummies (h : s.Restates t) : Dictionary.dummies t = Dictionary.dummies s := by
  unfold Dictionary.dummies
  refine List.filter_congr fun i _ => ?_
  have hentry := h.entry? (Dictionary.dummyKey i)
  generalize s.entry? (Dictionary.dummyKey i) = o, t.entry? (Dictionary.dummyKey i) = o' at hentry
  cases hentry with
  | none => rfl
  | some he => rw [Option.bind_some, Option.bind_some, he.integer?]

theorem named (h : s.Restates t) (o : Object) (count : UInt8) :
    o.named t count = o.named s count := by
  unfold Object.named Dictionary.listedNames
  simp only [h.value?]

end Section.Restates

/-! ### Data sheets -/

/-- The data sheet has the same sections in other words. -/
def Sheet.Restates (S T : Sheet) : Prop := List.Forall₂ Section.Restates S.sections T.sections

namespace Sheet.Restates

variable {S T : Sheet} {s t : Section}

theorem find? (h : S.Restates T) (name : String) :
    Option.Rel Section.Restates (S.find? name) (T.find? name) :=
  Ascending.rel_find? (fun _ _ hst => hst.name) h name

theorem definedType? (h : S.Restates T) (code : UInt16) :
    T.definedType? code = S.definedType? code := by
  have hdefinition : Option.Rel Section.Restates (S.definition? code) (T.definition? code) := by
    unfold definition?
    induction definitionNames code with
    | nil => exact .none
    | cons name names ih =>
        have hfind := h.find? name
        rw [List.findSome?_cons, List.findSome?_cons]
        generalize S.find? name = o, T.find? name = o' at hfind
        cases hfind with
        | none => exact ih
        | some hst => exact .some hst
  unfold Sheet.definedType?
  generalize S.definition? code = o, T.definition? code = o' at hdefinition
  cases hdefinition with
  | none => rfl
  | @some u v huv =>
      change (v.value? _ >>= _) = (u.value? _ >>= _)
      rw [huv.value?]

theorem outcome_dataType (h : S.Restates T) (hst : s.Restates t) (a : Address) :
    (T.dataType t a).outcome = (S.dataType s a).outcome := by
  rw [Sheet.outcome_dataType, Sheet.outcome_dataType, hst.value?]
  simp only [h.definedType?]

/-- A section describes the same variable in other words. -/
theorem result?_variable (h : S.Restates T) (hst : s.Restates t) (a : Address)
    (node : Option UInt8) : (T.variable t a node).result? = (S.variable s a node).result? := by
  have htype : (T.dataType t a).result? = (S.dataType s a).result? :=
    congrArg Except.toOption (h.outcome_dataType hst a)
  -- either is what the first section describes, under one name at one address
  rw [hst.sameAttributes.result?_variable htype, hst.title]
  exact ((Section.SameAttributes.refl s).result?_variable rfl node).symm

theorem result?_object (h : S.Restates T) (hst : s.Restates t) (index : UInt16)
    (node : Option UInt8) : (T.object t index node).result? = (S.object s index node).result? := by
  unfold object compactArray
  rw [Report.result?_bind, Report.result?_bind, hst.result?_objectKind]
  cases s.objectKind.result? with
  | none => rfl
  | some kind =>
      rw [Option.bind_some, Option.bind_some]
      cases kind with
      | plain => simp only [Report.result?_bind, h.result?_variable hst]
      | compact =>
          simp only [Report.result?_bind, hst.result?_parameterName, hst.result?_countMember,
            h.result?_variable hst]
      | group kind => simp only [Report.result?_bind, hst.result?_parameterName, hst.value?]

/-! ### The three runs -/

/-- A section in other words, about the same part of the dictionary. -/
def Headed (x y : Section × Heading) : Prop := x.1.Restates y.1 ∧ x.2 = y.2

variable {x y : Section × Heading}

theorem contribution (h : S.Restates T) (hxy : Headed x y) (node : Option UInt8) :
    T.contribution node y = S.contribution node x := by
  obtain ⟨s, heading⟩ := x
  obtain ⟨t, heading'⟩ := y
  obtain ⟨hst, rfl⟩ := hxy
  unfold Sheet.contribution
  cases heading with
  | commissioning => simp only [Section.Restates.baudrate hst]
  | dummyUsage => simp only [Section.Restates.dummies hst]
  | object index => simp only [h.result?_object hst]
  | member index subindex | nameList index | other => rfl

theorem result?_firstPass (h : S.Restates T) (hxy : Headed x y) (d : Dictionary) :
    (d.firstPass T y).result? = (d.firstPass S x).result? := by
  rw [Dictionary.result?_firstPass, Dictionary.result?_firstPass, h.contribution hxy]

theorem result?_secondPass (h : S.Restates T) (hxy : Headed x y) (d : Dictionary) :
    (d.secondPass T y).result? = (d.secondPass S x).result? := by
  obtain ⟨s, heading⟩ := x
  obtain ⟨t, heading'⟩ := y
  obtain ⟨hst, rfl⟩ := hxy
  cases heading with
  | member index subindex =>
      change (d.addMember T t _).result? = (d.addMember S s _).result?
      simp only [Dictionary.result?_addMember, h.result?_variable hst]
  | commissioning | dummyUsage | object index | nameList index | other => rfl

theorem result?_thirdPass (hxy : Headed x y) (d : Dictionary) :
    (d.thirdPass y).result? = (d.thirdPass x).result? := by
  obtain ⟨s, heading⟩ := x
  obtain ⟨t, heading'⟩ := y
  obtain ⟨hst, rfl⟩ := hxy
  cases heading with
  | nameList index =>
      change (d.addNames t index).result? = (d.addNames s index).result?
      simp only [Dictionary.result?_addNames, Section.Restates.nameCount hst,
        Section.Restates.named hst]
  | commissioning | dummyUsage | object index | member index subindex | other => rfl

theorem headed (h : s.Restates t) :
    Option.Rel Headed s.headed.toOption t.headed.toOption := by
  unfold Section.headed
  rw [h.name]
  cases Heading.ofName t.name with
  | error how => exact .none
  | ok heading => exact .some ⟨h, rfl⟩

/-- **Data sheets that say the same give the same dictionary**, or both give none. -/
theorem result?_dictionary (h : S.Restates T) (node : Option UInt8) :
    (T.dictionary node).result? = (S.dictionary node).result? := by
  rw [Sheet.result?_dictionary, Sheet.result?_dictionary]
  have hheaded := mapM_rel (R := Section.Restates) (fun _ _ hst => headed hst) h
  generalize S.sections.mapM (fun s : Section => s.headed.toOption) = o,
    T.sections.mapM (fun s : Section => s.headed.toOption) = o' at hheaded
  cases hheaded with
  | none => rfl
  | some hheaded =>
      simp only [Option.bind_some, foldlM_rel hheaded fun d x y hxy => h.result?_firstPass hxy d,
        foldlM_rel hheaded fun d x y hxy => h.result?_secondPass hxy d,
        foldlM_rel hheaded fun d x y hxy => result?_thirdPass hxy d]

end Sheet.Restates

end DataSheet
