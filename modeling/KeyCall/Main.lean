import KeyCall.CommandLine.Report
import KeyCall.Kit.Modules

/-!
# The program

The command line over the files of the working directory.  A registry module is a file whose text
is the name of one of the kit's modules; any other file registers nothing.  What comes from outside
is characters and becomes texts on its way in, and texts become characters on their way out.
-/

namespace KeyCall
namespace CommandLine

/-- The variable of the environment that holds the registry modules to load first. -/
def modulesVariable : String := "DATADECORATOR_REGISTRY"

/-- A text from outside. -/
def inward (s : String) : String := Text.ofCharacters s.toList

/-- A text for outside. -/
def outward (s : String) : String := String.ofList (Text.characters s)

/-- The node for the bytes of a file of the given name. -/
def nodeOfBytes (name : String) (bytes : List UInt8) : DiskNode :=
  let text := (Text.decodeUtf8 bytes).toOption.getD []
  match Kit.moduleOfKind? (Text.ofCharacters (Text.trim text)) name with
  | some m => .registryModule m
  | none => .file bytes

/-- Adds what is at a path to a disk, if anything is there. -/
def mount (d : Disk) (path : String) : IO Disk := do
  let l := (Location.ofText path).resolved
  try
    let bytes ← IO.FS.readBinFile (outward path)
    return d.put l (nodeOfBytes l.name bytes.toList)
  catch
    | .noFileOrDirectory .. => return d
    | _ => return d.put l .directory

end CommandLine
end KeyCall

open KeyCall CommandLine in
/-- Carries out the command line. -/
def main (args : List String) : IO UInt32 := do
  let args := args.map inward
  let modules := inward ((← IO.getEnv modulesVariable).getD "")
  let named := match Request.ofArguments args with
    | .ok request => request.paths
    | .error _ => []
  let empty : Disk := { root := inward (← IO.currentDir).toString }
  let disk ← (modulePaths modules ++ named).foldlM mount empty
  let stage : Stage Kit.State := { state := {} }
  let report := Report.ofArguments { host := Kit.host, disk, modules, stage } args
  IO.print (outward report.output)
  IO.eprint (outward report.errors)
  return report.exitCode.toUInt32
