/-
**Notices.**

What the work on a data sheet tells about itself on the way: what was found, what was replaced and
what was left out.  A notice has a severity, by which a reader may ask for more or fewer of them.

Main definitions:

* `Severity` — how much a notice matters;
* `Notice` — what can be noticed;
* `Notice.severity`, `Notice.text` — a notice's severity and wording;
* `Notice.upTo` — the lines for those who want notices up to a severity.
-/

import DataSheet.DataType
import DataSheet.Fault
import DataSheet.Report

set_option relaxedAutoImplicit false
set_option autoImplicit false

namespace DataSheet

/-- How much a notice matters, the gravest first. -/
inductive Severity
  | error
  | warn
  | info
  | debug
  | trace
  deriving DecidableEq

namespace Severity

/-- The rank of a severity; the gravest has the least. -/
def rank : Severity → Nat
  | error => 0
  | warn => 1
  | info => 2
  | debug => 3
  | trace => 4

/-- The word at the head of a line. -/
def label : Severity → String
  | error => "ERROR"
  | warn => "WARN"
  | info => "INFO"
  | debug => "DEBUG"
  | trace => "TRACE"

/-- The word by which a severity is asked for. -/
def word : Severity → String
  | error => "error"
  | warn => "warn"
  | info => "info"
  | debug => "debug"
  | trace => "trace"

end Severity

/-- What can be noticed. -/
inductive Notice
  | sectionFound (name : String) (line : Nat)
  | sheetRead (sections objects : Nat)
  | objectBuilt (index : UInt16) (name heading : String)
  | objectReplaced (index : UInt16) (old new : String)
  | memberReplaced (address : Address) (old new : String)
  | memberAttached (address : Address) (heading : String)
  | notAGroup (heading : String) (index : UInt16)
  | nameMissing (heading : String)
  | typeMissing (heading name : String)
  | typeResolved (heading : String) (code : UInt16) (type : DataType)
  | emptyLiteral (address : Address) (field : Field)
  | domainDefault (heading : String)
  | untypedValues (heading : String)
  | valueDescribed (heading : String) (value : Int64) (label : String)
  | elementSynthesized (address : Address) (template : String)
  | objectProjected (index : UInt16) (name : String)
  | declarationsEmitted (declarations objects : Nat)
  | settingsLoading (path : String)
  | fileGenerated (destination source : String) (objects : Nat)
  | failed (message : String)
  deriving DecidableEq

namespace Notice

/-- How much a notice matters. -/
def severity : Notice → Severity
  | failed _ => .error
  | notAGroup .. | nameMissing _ | typeMissing .. | domainDefault _ | untypedValues _ => .warn
  | sheetRead .. | declarationsEmitted .. | fileGenerated .. => .info
  | objectBuilt .. | objectReplaced .. | memberReplaced .. | objectProjected ..
  | settingsLoading _ => .debug
  | sectionFound .. | memberAttached .. | typeResolved .. | emptyLiteral .. | valueDescribed ..
  | elementSynthesized .. => .trace

/-- The wording of a notice. -/
def text : Notice → String
  | sectionFound name line => s!"Section [{name}] at line {line}"
  | sheetRead sections objects => s!"Parsed EDS: {sections} sections, {objects} objects"
  | objectBuilt index name heading => s!"{indexText index} '{name}' built from [{heading}]"
  | objectReplaced index old new =>
    s!"Index {indexText index} redefined: '{old}' replaced by '{new}'"
  | memberReplaced a old new => s!"Overwriting {a.text} ('{old}' -> '{new}')"
  | memberAttached a heading => s!"{a.text} attached from [{heading}]"
  | notAGroup heading index => s!"[{heading}] ignored: {indexText index} is a plain variable"
  | nameMissing heading => s!"[{heading}] has no ParameterName, using the section name"
  | typeMissing heading name => s!"[{heading}] '{name}' has no DataType; it cannot be emitted"
  | typeResolved heading code type =>
    s!"[{heading}] custom type 0x{Text.lowerHex 4 code.toNat} resolved to {type.name}"
  | emptyLiteral a field => s!"Empty {field.key} for {a.text} treated as absent"
  | domainDefault heading =>
    s!"[{heading}] DefaultValue ignored: DOMAIN objects carry no default"
  | untypedValues heading => s!"[{heading}] values ignored without a DataType"
  | valueDescribed heading value label => s!"[{heading}] value {value.toInt} => '{label}'"
  | elementSynthesized a template => s!"Synthesizing {a.text} from '{template}'"
  | objectProjected index name => s!"{indexText index} '{name}' projected"
  | declarationsEmitted declarations objects =>
    s!"Emitted {declarations} declarations for {objects} objects"
  | settingsLoading path => s!"Loading emitter settings from {path}"
  | fileGenerated destination source objects =>
    s!"Generated {destination} from {source} ({objects} objects)"
  | failed message => message

/-- The line of a notice. -/
def line (n : Notice) : String := n.severity.label ++ " " ++ n.text

/-- The lines of the notices that are at least as grave as `limit`. -/
def upTo (limit : Severity) (ns : List Notice) : List String :=
  (ns.filter fun n => n.severity.rank ≤ limit.rank).map line

end Notice

/-- A step on a data sheet or a dictionary. -/
abbrev Step (α : Type) := Report Notice Fault α

end DataSheet
