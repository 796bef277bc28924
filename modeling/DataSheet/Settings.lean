/-
**Settings of declarations.**

Main definitions:

* `Settings` — the names that declarations are given;
* `Settings.standard` — the settings that hold unless others are given;
* `Settings.check` — the settings that are written as they are must be valid where they stand.
-/

import DataSheet.Fault
import DataSheet.Identifier

set_option relaxedAutoImplicit false
set_option autoImplicit false

namespace DataSheet

/-- The names that declarations are given. -/
structure Settings where
  /-- Stands before the identifier of every constant. -/
  constantStart : String
  /-- The module from which the types of the declarations are imported. -/
  modulePath : String
  /-- The name of the function that assembles the constants. -/
  builderName : String
  /-- Stands between the name of a group and the name of its member. -/
  memberSeparator : String
  deriving DecidableEq

namespace Settings

/-- The settings that hold unless others are given. -/
def standard : Settings := ⟨"OD_", "canopen::objectdictionary", "get_od", "_"⟩

/-- The builder's name must be free for a function, and the module's path must be a path. -/
def check (c : Settings) : Except Fault Unit :=
  if !Identifier.isFree c.builderName then .error (.badSetting .builderName c.builderName)
  else if !Identifier.isPath c.modulePath then .error (.badSetting .modulePath c.modulePath)
  else .ok ()

theorem check_standard : standard.check = .ok () := rfl

end Settings

end DataSheet
