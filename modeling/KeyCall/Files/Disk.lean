import KeyCall.Files.Location
import KeyCall.Files.RegistryModule

/-!
# Disks

The files that a run can see: a working directory with directories, files of bytes and registry
modules below it.

## Main definitions

* `DiskNode`: what a path leads to.
* `Disk`: the files.
* `Disk.find?`: what is at a path.
* `Disk.isTooLong`: whether a path is longer than the system takes.
* `Disk.absoluteText`: a path from the root.
* `Disk.put`: adds a node and the directories above it.
* `Disk.loadModule`, `Disk.loadModules`: loads the registry modules at paths.
-/

namespace KeyCall

/-- What a path leads to.  Whatever does something when it is loaded as a module is a registry
module, also if all that it does is to fail.  So a file of bytes at the path of a module is one that
does nothing. -/
inductive DiskNode
  /-- A directory. -/
  | directory
  /-- A file. -/
  | file (bytes : List UInt8)
  /-- A file that is a registry module. -/
  | registryModule (m : RegistryModule)
  deriving Inhabited

/-- The files that a run can see. -/
structure Disk where
  /-- The working directory, as messages write it. -/
  root : String
  /-- What is there, by resolved location. -/
  nodes : List (Location × DiskNode) := []
  deriving Inhabited

namespace Disk

/-- What is at a resolved location.  The working directory, its parents and the root are there. -/
def nodeAt? (d : Disk) (l : Location) : Option DiskNode :=
  if l.parts.all (· == Location.parent) then some .directory
  else Entries.get? (· == ·) d.nodes l

/-- What is at a path.  Every part on the way has to be a directory. -/
def find? (d : Disk) (l : Location) : Option DiskNode :=
  go l.start l.parts
where
  /-- Follows the parts that are left. -/
  go (here : Location) : List String → Option DiskNode
    | [] => d.nodeAt? here
    | p :: ps =>
      match d.nodeAt? here with
      | some .directory => go (here.step p) ps
      | _ => none

/-- Whether a path, written as `shown`, is longer than the system takes, or leads to a directory
and on to a name that is. -/
def isTooLong (d : Disk) (shown : String) (l : Location) : Bool :=
  Location.pathLimit ≤ Location.byteLength shown || go l.start l.parts
where
  /-- Follows the parts that are left. -/
  go (here : Location) : List String → Bool
    | [] => false
    | p :: ps =>
      match d.nodeAt? here with
      | some .directory => Location.nameLimit ≤ Location.byteLength p || go (here.step p) ps
      | _ => false

/-- The directories above a location. -/
def above (l : Location) : List Location :=
  (List.range l.parts.length).map fun n => { l with parts := l.parts.take n }

/-- Adds a node, and the directories above it that are not there yet. -/
def put (d : Disk) (l : Location) (n : DiskNode) : Disk :=
  let missing := (above l).filter fun a => (d.nodeAt? a).isNone
  let nodes := missing.foldl (fun ns a => Entries.put (· == ·) ns a .directory) d.nodes
  { d with nodes := Entries.put (· == ·) nodes l n }

/-- A resolved location from the root. -/
def absoluteText (d : Disk) (l : Location) : String :=
  if l.absolute then l.text
  else
    let up := l.parts.takeWhile (· == Location.parent)
    let rest := l.parts.dropWhile (· == Location.parent)
    let base := (Text.split '/' d.root).reverse.drop up.length
    "/".intercalate (base.reverse ++ rest)

/-- Loads the registry module at a path.  The path is resolved first, and must lead to something
whose name ends in `.py`. -/
def loadModule (d : Disk) (path : String) (scope : Scope) (rs : Registries) :
    Except Error Unit × Registries × List Event :=
  match (Location.ofText path).resolve with
  | .error e => (.error e, rs, [])
  | .ok l =>
    let shown := d.absoluteText l
    if d.isTooLong shown l then (.error (.nameTooLong shown), rs, [])
    else match d.find? l with
      | none => (.error (.moduleMissing shown), rs, [])
      | some node => loadNode l shown node
where
  /-- Loads what was found.  A file of bytes is a module that does nothing: one whose bytes are no
  program is a registry module that fails. -/
  loadNode (l : Location) (shown : String) (node : DiskNode) :
      Except Error Unit × Registries × List Event :=
    if l.suffix != ".py" && l.name != ".py" then (.error (.notModule shown), rs, [])
    else match node with
      | .directory =>
        let reason := (Error.isDirectory shown).message
        (.error (.moduleFailed shown reason), rs, [])
      | .file _ => finish l shown { registries := rs }
      | .registryModule m => finish l shown (m.load scope rs)
  /-- Reports the failure of a module, or that it is loaded. -/
  finish (l : Location) (shown : String) (loaded : Loaded) :
      Except Error Unit × Registries × List Event :=
    match loaded.failure with
    | some reason => (.error (.moduleFailed shown reason), loaded.registries, loaded.events)
    | none =>
      let size := (loaded.registries.get scope).size
      (.ok (), loaded.registries, loaded.events ++ [.moduleLoaded l.name size])

/-- Loads the registry modules at some paths in order, up to the first that fails.  Where a path
is missing, loading fails as well. -/
def loadModules (d : Disk) (scope : Scope) (rs : Registries) :
    List (Option String) → Except Error Unit × Registries × List Event
  | [] => (.ok (), rs, [])
  | none :: _ => (.error .noPath, rs, [])
  | some p :: ps =>
    match d.loadModule p scope rs with
    | (.error e, rs, events) => (.error e, rs, events)
    | (.ok _, rs, events) =>
      let (result, rs, more) := loadModules d scope rs ps
      (result, rs, events ++ more)

end Disk
end KeyCall
