/-
**Variables by cuts and positions.**

A variable is read off a section by cutting its keys behind their stems, which may be written in
another letter case, by looking sections of types up by position, and by reading literals in words
of fixed width.  This module does so with a guard at each of these operations and shows that every
step does what its counterpart without guards does.

Main definitions:

* `Guarded.kin`, `Guarded.behindStem` — the entries of a family, and the rest of a key, cut off
  where its stem ends;
* `Document.dataType` — the type that a section gives;
* `Document.variable` — the variable that a section describes.

Main results:

* `Guarded.behindStem_eq` — **a stem ends in a key where it ends in the key's other letter case**;
* `Document.variable_eq` — **variables are read without hazard**.
-/

import DataSheet.Proofs.Positions
import DataSheet.Proofs.Sheets

set_option relaxedAutoImplicit false
set_option autoImplicit false

namespace DataSheet

namespace Guarded

variable {s : Section}

/-! ### Families of entries -/

/-- The entries whose keys start with a stem. -/
def kin (s : Section) (stem : String) : List Entry :=
  s.entries.filter fun e => (foldKey stem).toList.isPrefixOf e.key.toList

/-- The rest of a key as it is written, from the byte on at which the stem ends. -/
def behindStem (stem : String) (e : Entry) : Guarded String := do
  let rest ← back (Text.size stem.toList) e.spelling.toList
  pure (String.ofList rest)

/-- **A stem ends in a key where it ends in the key's other letter case.** -/
theorem behindStem_eq {stem : String} {e : Entry} (hkey : e.key = foldKey e.spelling)
    (hstem : (foldKey stem).toList.isPrefixOf e.key.toList) :
    behindStem stem e =
      pure (String.ofList (e.spelling.toList.drop (foldKey stem).toList.length)) := by
  have hlower : ∀ t : String, (foldKey t).toList = Text.lower t.toList := fun _ =>
    String.toList_ofList
  rw [hkey, hlower, hlower] at hstem
  rw [hlower, Text.length_lower]
  obtain ⟨rest, hrest⟩ := List.isPrefixOf_iff_prefix.1 hstem
  -- the front of the key is the stem up to letter case, and so has its size
  have hfront : Text.lower (e.spelling.toList.take stem.toList.length) =
      Text.lower stem.toList := by
    have htake := congrArg (List.take stem.toList.length) hrest
    rw [← Text.length_lower stem.toList, List.take_left, Text.length_lower] at htake
    rw [htake]
    exact List.map_take
  have hsize : Text.size stem.toList =
      Text.size (e.spelling.toList.take stem.toList.length) := by
    rw [← Text.size_lower, ← hfront, Text.size_lower]
  have hback := back_append (e.spelling.toList.take stem.toList.length)
    (e.spelling.toList.drop stem.toList.length)
  rw [List.take_append_drop, ← hsize] at hback
  unfold behindStem
  rw [hback, pure_bind]

theorem family_eq (s : Section) (stem : String) :
    s.family stem = (kin s stem).map fun e =>
      (String.ofList (e.spelling.toList.drop (foldKey stem).toList.length), e) := rfl

/-- A run over a family does what the run over its entries does that cuts off each stem. -/
theorem foldlM_kin {β : Type} (hs : s.Proper) {stem : String}
    {f : β → String × Entry → Step β} {g : β → Entry → String → Guarded β}
    (h : ∀ b rest e, g b e rest = ofStep (f b (rest, e))) (b : β) :
    (kin s stem).foldlM (fun b e => behindStem stem e >>= g b e) b =
      ofStep ((s.family stem).foldlM f b) := by
  rw [family_eq, List.foldlM_map]
  refine foldlM_ofStep (fun b e he => ?_) b
  obtain ⟨hmem, hprefix⟩ := List.mem_filter.1 he
  rw [behindStem_eq (hs.folded e hmem) hprefix, pure_bind, h]

/-! ### Attributes -/

/-- The value that a section gives in a field, if it gives one. -/
def typedValue (s : Section) (address : Address) (type : DataType) (node : Option UInt8)
    (field : Field) : Guarded (Option Value) :=
  match s.value? field.key with
  | none => pure none
  | some literal => value address field type node literal

/-- The limits and values that a section gives at its type. -/
def values (s : Section) (address : Address) (node : Option UInt8) (v : Variable) :
    Guarded Variable :=
  match v.dataType with
  | none => do
    if s.has Field.defaultValue.key || s.has Field.parameterValue.key then
      .note (.untypedValues s.name)
    pure v
  | some type => do
    let low ← typedValue s address type node .lowLimit
    let high ← typedValue s address type node .highLimit
    let default ← typedValue s address type node .defaultValue
    let parameter ← typedValue s address type node .parameterValue
    if type = .domain && s.has Field.defaultValue.key then
      .note (.domainDefault s.name)
    pure { v with
      lowLimit := low
      highLimit := high
      defaultValue := default
      parameterValue := parameter }

/-- Labels for raw values. -/
def valueDescriptions (s : Section) (address : Address) (v : Variable) : Guarded Variable :=
  (kin s (Field.valueDescription.key ++ ".")).foldlM
    (fun v e => do
      let raw ← behindStem (Field.valueDescription.key ++ ".") e
      match ← rawValue raw with
      | none => .fail (.fault (.badLiteral address .valueDescription raw))
      | some n => do
        .note (.valueDescribed s.name n e.value)
        pure (v.describe n e.value))
    v

/-- Fields of bits. -/
def bitDefinitions (s : Section) (address : Address) (v : Variable) : Guarded Variable :=
  (kin s (Field.bitDefinition.key ++ ".")).foldlM
    (fun v e => do
      let field ← behindStem (Field.bitDefinition.key ++ ".") e
      match bits? e.value with
      | none => .fail (.fault (.badLiteral address .bitDefinition e.value))
      | some bits => pure (v.defineBits field bits))
    v

theorem typedValue_eq (s : Section) (address : Address) (type : DataType) (node : Option UInt8)
    (field : Field) :
    typedValue s address type node field = ofStep (s.typedValue address type node field) := by
  unfold typedValue Section.typedValue
  cases s.value? field.key with
  | none => rfl
  | some literal => exact value_eq address field type node literal

theorem values_eq (s : Section) (address : Address) (node : Option UInt8) (v : Variable) :
    values s address node v = ofStep (s.values address node v) := by
  unfold values Section.values
  cases v.dataType with
  | none => exact ite_ofStep rfl rfl
  | some type =>
      refine bind_ofStep (typedValue_eq s address type node .lowLimit) fun low => ?_
      refine bind_ofStep (typedValue_eq s address type node .highLimit) fun high => ?_
      refine bind_ofStep (typedValue_eq s address type node .defaultValue) fun default => ?_
      refine bind_ofStep (typedValue_eq s address type node .parameterValue) fun parameter => ?_
      exact ite_ofStep rfl rfl

theorem valueDescriptions_eq (hs : s.Proper) (address : Address) (v : Variable) :
    valueDescriptions s address v = ofStep (s.valueDescriptions address v) := by
  unfold valueDescriptions Section.valueDescriptions
  refine foldlM_kin hs (fun v raw e => ?_) v
  rw [rawValue_eq, pure_bind]
  dsimp only
  cases rawValue? raw <;> rfl

theorem bitDefinitions_eq (hs : s.Proper) (address : Address) (v : Variable) :
    bitDefinitions s address v = ofStep (s.bitDefinitions address v) := by
  unfold bitDefinitions Section.bitDefinitions
  refine foldlM_kin hs (fun v field e => ?_) v
  dsimp only
  cases bits? e.value <;> rfl

end Guarded

open Guarded (ofStep bind_ofStep ite_ofStep typeCode typeCode_eq)

variable {doc : Document}

/-! ### Types -/

/-- The section that defines the type with a code. -/
def Document.definition (doc : Document) (code : UInt16) : Guarded (Option Section) :=
  (definitionNames code).findSomeM? doc.section?

/-- The type to which the definition of a code leads. -/
def Document.definedType (doc : Document) (code : UInt16) : Guarded (Option DataType) := do
  match ← doc.definition code with
  | none => pure none
  | some s =>
    match s.value? "DefaultValue" with
    | none => pure none
    | some literal => do
      let standard ← typeCode literal.toList
      pure (standard.bind DataType.ofCode?)

/-- The type that a section gives, if it gives one. -/
def Document.dataType (doc : Document) (s : Section) (address : Address) :
    Guarded (Option DataType) :=
  match s.value? Field.dataType.key with
  | none => pure none
  | some literal => do
    match ← typeCode literal.toList with
    | none => .fail (.fault (.badLiteral address .dataType literal))
    | some code =>
      match DataType.ofCode? code with
      | some type => pure (some type)
      | none => do
        match ← doc.definedType code with
        | some type => do
          .note (.typeResolved s.name code type)
          pure (some type)
        | none => .fail (.fault (.unknownType address code))

theorem Document.definition_eq (h : doc.Indexed) (code : UInt16) :
    doc.definition code = pure (doc.sheet.definition? code) := by
  have hsection : doc.section? = fun name => pure (doc.sheet.find? name) :=
    funext (Document.section?_eq h)
  unfold definition Sheet.definition?
  rw [hsection, List.findSomeM?_pure]

theorem Document.definedType_eq (h : doc.Indexed) (code : UInt16) :
    doc.definedType code = pure (doc.sheet.definedType? code) := by
  unfold definedType Sheet.definedType?
  rw [definition_eq h, pure_bind]
  cases doc.sheet.definition? code with
  | none => rfl
  | some s =>
      dsimp only [Option.bind_eq_bind, Option.bind_some]
      cases s.value? "DefaultValue" with
      | none => rfl
      | some literal =>
          dsimp only [Option.bind_some]
          rw [typeCode_eq, pure_bind]

theorem Document.dataType_eq (h : doc.Indexed) (s : Section) (address : Address) :
    doc.dataType s address = ofStep (doc.sheet.dataType s address) := by
  unfold dataType Sheet.dataType
  cases s.value? Field.dataType.key with
  | none => rfl
  | some literal =>
      dsimp only
      rw [typeCode_eq, pure_bind]
      cases Literal.typeCode? literal.toList with
      | none => rfl
      | some code =>
          dsimp only
          cases DataType.ofCode? code with
          | some type => rfl
          | none =>
              dsimp only
              rw [definedType_eq h, pure_bind]
              cases doc.sheet.definedType? code <;> rfl

/-! ### Variables -/

/-- The variable that a section describes at an address, for a node. -/
def Document.variable (doc : Document) (s : Section) (address : Address) (node : Option UInt8) :
    Guarded Variable := do
  let name ← ofStep s.parameterName
  let type ← doc.dataType s address
  if type.isNone then
    .note (.typeMissing s.name name)
  let access ← ofStep (s.access address)
  let v ← Guarded.values s address node
    { Variable.blank name address.index address.subindex with dataType := type, access := access }
  let factor ← ofStep (s.factor address)
  let v ← Guarded.valueDescriptions s address
    { v with
      unit := (s.value? "Unit").getD ""
      factor := factor
      description := (s.value? "Description").getD "" }
  Guarded.bitDefinitions s address v

theorem Document.variable_eq (h : doc.Indexed) {s : Section} (hs : s.Proper) (address : Address)
    (node : Option UInt8) :
    doc.variable s address node = ofStep (doc.sheet.variable s address node) := by
  unfold Document.variable Sheet.variable
  refine bind_ofStep rfl fun name => ?_
  refine bind_ofStep (Document.dataType_eq h s address) fun type => ?_
  refine ite_ofStep (bind_ofStep rfl fun _ => ?_) ?_
  -- the same steps follow, with a notice before them or without
  all_goals
    refine bind_ofStep rfl fun access => ?_
    refine bind_ofStep (Guarded.values_eq s address node _) fun v => ?_
    refine bind_ofStep rfl fun factor => ?_
    refine bind_ofStep (Guarded.valueDescriptions_eq hs address _) fun v => ?_
    exact Guarded.bitDefinitions_eq hs address v

end DataSheet
