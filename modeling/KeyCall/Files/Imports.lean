import KeyCall.Files.Disk

/-!
# The table of modules

A registry module is entered into the table of the modules that are in use, under its name without
the suffix, before anything that it does is carried out.  Whatever stood under that name is gone
from then on.  If the module fails, it is taken out again; that is all that is undone.

## Main definitions

* `Location.stem`: the last part of a path without its suffix.
* `ModuleTable`: the modules that are in use.
* `Disk.importModule`: loads a registry module and keeps the table.
-/

namespace KeyCall

/-- The last part of a path without what it ends in. -/
def Location.stem (l : Location) : String :=
  let cs := l.name.toList
  String.ofList (cs.take (cs.length - l.suffix.toList.length))

/-- The modules that are in use, by name, with the places where they are. -/
abbrev ModuleTable := List (String × Location)

/-- Loads the registry module at a path and keeps the table.  A path at which there is no module is
refused before anything is entered. -/
def Disk.importModule (d : Disk) (path : String) (scope : Scope) (rs : Registries)
    (table : ModuleTable) : (Except Error Unit × Registries × List Event) × ModuleTable :=
  let loaded := d.loadModule path scope rs
  match (Location.ofText path).resolve, loaded.1 with
  | .ok l, .ok () => (loaded, Entries.put (· == ·) table l.stem l)
  | .ok l, .error (.moduleFailed _ _) =>
    let entered := Entries.put (· == ·) table l.stem l
    (loaded, Entries.erase (· == ·) entered l.stem)
  | _, _ => (loaded, table)

end KeyCall
