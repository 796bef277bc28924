/-
**Settings from JSON.**

Settings are an object with a string for each key, or an array with the strings in the order of the
keys.  What is left out has its standard value; keys of other names are skipped.

Main definitions:

* `Settings.Given` — the settings that a text gives;
* `Settings.ofJson` — the settings that a text is.
-/

import DataSheet.Json.Dump
import DataSheet.Json.Reader

set_option relaxedAutoImplicit false
set_option autoImplicit false

namespace DataSheet.Settings

open Json (Unfit Front skipSpace)

/-- The settings that a text gives: keys with their strings. -/
abbrev Given := List (String × String)

/-- The string given for a key. -/
def Given.value? (g : Given) (key : String) : Option String :=
  (g.find? fun e => e.1 = key).map Prod.snd

/-- Settings in which what is not given has its standard value. -/
def Given.complete (g : Given) : Settings where
  constantStart := (g.value? "prefix").getD standard.constantStart
  modulePath := (g.value? "module_path").getD standard.modulePath
  builderName := (g.value? "builder_name").getD standard.builderName
  memberSeparator := (g.value? "member_separator").getD standard.memberSeparator

/-- The string that stands first in a text. -/
def readText (s : List Char) : Front String :=
  match skipSpace s with
  | [] => .error .cutShort
  | c :: s => if c = '"' then Json.readString s else .error (Json.unexpected c s)

/-! ### Arrays -/

/-- The end of an array all of whose items are taken. -/
def readEnd (s : List Char) : Except Unfit (List Char) :=
  match skipSpace s with
  | [] => .error .cutShort
  | c :: s => if c = ']' then .ok s else .error .illFormed

/-- The text in which the next item of an array stands first, if there is one. -/
def nextItem (first : Bool) (s : List Char) : Except Unfit (Option (List Char)) :=
  match skipSpace s with
  | [] => .error .cutShort
  | c :: s =>
    if c = ']' then .ok none
    else if first then .ok (some (c :: s))
    else if c = ',' then
      match skipSpace s with
      | [] => .error .cutShort
      | c :: s => if c = ']' then .error .illFormed else .ok (some (c :: s))
    else .error .illFormed

/-- The items of an array, at most one for each key, and the text behind the array. -/
def readItems (first : Bool) : List String → List Char → Front Given
  | [], s => (readEnd s).map fun s => ([], s)
  | key :: keys, s =>
    match nextItem first s with
    | .error e => .error e
    | .ok none => (readEnd s).map fun s => ([], s)
    | .ok (some s) =>
      match readText s with
      | .error e => .error e
      | .ok (text, s) => (readItems false keys s).map fun (g, s) => ((key, text) :: g, s)

/-! ### Objects -/

/-- The text behind the quote that opens the next key of an object, if there is one. -/
def nextKey (first : Bool) (s : List Char) : Except Unfit (Option (List Char)) :=
  match skipSpace s with
  | [] => .error .cutShort
  | c :: s =>
    if c = '}' then .ok none
    else if first then if c = '"' then .ok (some s) else .error .illFormed
    else if c = ',' then
      match skipSpace s with
      | [] => .error .cutShort
      | c :: s => if c = '"' then .ok (some s) else .error .illFormed
    else .error .illFormed

/-- The text behind a colon. -/
def readColon (s : List Char) : Except Unfit (List Char) :=
  match skipSpace s with
  | [] => .error .cutShort
  | c :: s => if c = ':' then .ok s else .error .illFormed

/-- The member of an object behind the quote that opens its key, added to what is given already.  A
key may be given once. -/
def readMember (g : Given) (s : List Char) : Front Given :=
  match Json.readString s with
  | .error e => .error e
  | .ok (key, s) =>
    if keys.contains key then
      if (g.value? key).isSome then .error .mismatched
      else
        match readColon s with
        | .error e => .error e
        | .ok s => (readText s).map fun (text, s) => ((key, text) :: g, s)
    else
      match readColon s with
      | .error e => .error e
      | .ok s => (Json.skipValue s).map fun s => (g, s)

/-- The end of an object. -/
def readClose (s : List Char) : Except Unfit (List Char) :=
  match skipSpace s with
  | [] => .error .cutShort
  | c :: s => if c = '}' then .ok s else .error .illFormed

/-- At most `count` members of an object, and the text behind the object. -/
def readMembers : Nat → Bool → Given → List Char → Front Given
  | 0, _, _, _ => .error .cutShort
  | count + 1, first, g, s =>
    match nextKey first s with
    | .error e => .error e
    | .ok none => (readClose s).map fun s => (g, s)
    | .ok (some s) =>
      match readMember g s with
      | .error e => .error e
      | .ok (g, s) => readMembers count false g s

/-! ### Whole texts -/

/-- The settings that stand first in a text.  Every member takes characters, so there are fewer
members than characters. -/
def readGiven (s : List Char) : Front Given :=
  match skipSpace s with
  | [] => .error .cutShort
  | c :: s =>
    if c = '[' then readItems true keys s
    else if c = '{' then readMembers (s.length + 1) true [] s
    else .error (Json.unexpected c s)

/-- The settings that a text is. -/
def ofJson (text : String) : Except Unfit Settings :=
  match readGiven text.toList with
  | .error e => .error e
  | .ok (g, s) => if skipSpace s = [] then .ok g.complete else .error .illFormed

/-- The wording of what keeps a text from being settings. -/
def unfitText : Unfit → String
  | .illFormed => "the settings are not well-formed JSON"
  | .cutShort => "the settings end too early"
  | .mismatched => "the settings are not an object of strings"

end DataSheet.Settings
