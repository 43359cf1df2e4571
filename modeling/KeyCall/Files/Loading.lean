import KeyCall.Files.Disk
import KeyCall.Json.Reading
import KeyCall.Yaml.Reading

/-!
# Loading collections

A collection is loaded from a file, whose suffix names its format.  The file must be a text, the
text must be well-formed, and what it holds must be a mapping or a list.  JSON is read here, as far
as the stack has room for its containers, and YAML by whatever reader there is for it.

## Main definitions

* `Format`, `Format.ofSuffix?`: the formats.
* `Readers`: what files are read with.
* `Format.read`: reads the bytes of a file in a format.
* `Disk.loadCollection`: loads the collection at a path.
-/

namespace KeyCall

/-- The formats of collections. -/
inductive Format
  /-- JSON. -/
  | json
  /-- YAML. -/
  | yaml
  deriving DecidableEq, Repr, Inhabited

/-- What files are read with. -/
structure Readers where
  /-- The number of containers of a JSON text that the stack has room for inside of each other. -/
  room : Nat := Json.depthLimit
  /-- The reader of YAML. -/
  yaml : Yaml.Reader := Yaml.builtIn

namespace Format

/-- The format that a suffix names, in letters of either case. -/
def ofSuffix? (suffix : String) : Option Format :=
  match suffix.map Char.toLower with
  | ".json" => some .json
  | ".yaml" => some .yaml
  | ".yml" => some .yaml
  | _ => none

/-- The error of loading that a failure of the YAML package becomes.  Only the package's own error
is told as a fault of the file. -/
def errorOf (path : String) : Yaml.Failure → Error
  | .malformed detail => .malformed path detail
  | .other label message => .raised (.foreign label) message none

/-- Reads the bytes of a file; `path` is where they come from. -/
def read (f : Format) (readers : Readers) (path : String) (bytes : List UInt8) :
    Except Error Value :=
  match f with
  | .json =>
    match (Text.decodeUtf8 bytes).map Text.unifyLines with
    | .error fault => .error (.undecodable fault)
    | .ok text =>
      match Json.read text readers.room with
      | .ok v => .ok v
      | .error fault => .error (fault.reason.error?.getD (.malformed path (fault.message text)))
  | .yaml => (readers.yaml (Text.Arrival.ofBytes bytes)).mapError (errorOf path)

end Format

/-- What a collection may be: a mapping or a list. -/
def needCollection (path : String) (v : Value) : Except Error Value :=
  match v with
  | .mapping _ _ => .ok v
  | .list _ => .ok v
  | _ => .error (.notCollection path v.typeName)

/-- Reads the collection in what was found at a location. -/
def DiskNode.collection (readers : Readers) (l : Location) : DiskNode → Except Error Value
  | .directory => .error (.isDirectory l.text)
  | node =>
    match Format.ofSuffix? l.suffix, node with
    | some format, .file bytes => do
      let v ← format.read readers l.text bytes
      needCollection l.text v
    | _, _ => .error (.formatUnknown (if l.suffix.isEmpty then l.name else l.suffix))

/-- Loads the collection at a path.  Nothing is at a path that the system cannot be asked about. -/
def Disk.loadCollection (d : Disk) (path : String) (readers : Readers := {}) :
    Except Error Value :=
  let l := Location.ofText path
  if l.refusal?.isSome then .error (.collectionMissing l.text)
  else if d.isTooLong l.text l then .error (.nameTooLong l.text)
  else match d.find? l with
    | none => .error (.collectionMissing l.text)
    | some node => node.collection readers l

end KeyCall
