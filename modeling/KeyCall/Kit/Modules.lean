import KeyCall.Files.RegistryModule
import KeyCall.Kit.Catalogue

/-!
# The registry modules of the kit

Registry modules by kind.  They cover the ways in which a module can register its targets, and the
points at which it can fail.

## Main definitions

* `Kit.moduleOfKind?`: the module of a kind, in a file of the given name.
-/

namespace KeyCall
namespace Kit

/-- The directives that register a list of targets. -/
def registerAll (ts : List (String × Value)) : List Directive :=
  ts.map fun (name, target) => .register name target

/-- The directive that registers a target of the kit under a name. -/
def registerKit (name target : String) : Directive := .register name ((target? target).getD .null)

/-- The module of a kind; the name of its file may be part of what it fails with. -/
def moduleOfKind? (kind file : String) : Option RegistryModule :=
  match kind with
  | "kit" => some { hook := registerAll targets }
  | "avatars" => some { hook := registerAll avatarTargets }
  | "global_kit" => some
      { onLoad := [registerKit "strtoupper" "strtoupper", registerKit "say" "echo",
          registerKit "Auto" "Car"] }
  | "empty" => some {}
  | "boom" => some { onLoad := [.fail "boom"] }
  | "late_boom" => some { onLoad := [registerKit "echo" "echo", .fail "too late"] }
  | "bad_hook" => some { hook := [.register "x" (.int 42)] }
  | "partial_hook" => some { hook := [registerKit "echo" "echo", .fail "'late'"] }
  | "noncallable_hook" => some {}
  | "parse_error" => some { onLoad := [.fail "bad: '$x'"] }
  | "syntax" => some { onLoad := [.fail s!"invalid syntax ({file}, line 1)"] }
  | _ => none

end Kit
end KeyCall
