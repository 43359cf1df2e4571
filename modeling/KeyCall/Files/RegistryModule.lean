import KeyCall.Registry

/-!
# Registry modules

A registry module is a file that registers targets.  What it does when it is loaded goes to the
shared registry; it may also have a hook, which then is handed the registry it is loaded for.
Either part is a sequence of registrations and may fail after any of them.  The registrations made
before a failure remain.

## Main definitions

* `Directive`: a registration or a failure.
* `RegistryModule`: the two parts of a module.
* `Directive.applyAll`: carries out directives in order, up to a failure.
* `RegistryModule.load`: loads a module for a registry.
-/

namespace KeyCall

/-- One thing that a registry module does. -/
inductive Directive
  /-- Registers a value under a name. -/
  | register (name : String) (value : Value)
  /-- Fails for a reason. -/
  | fail (reason : String)
  deriving Inhabited

/-- A file that registers targets. -/
structure RegistryModule where
  /-- What it does when it is loaded, to the shared registry. -/
  onLoad : List Directive := []
  /-- What its hook does to the registry that it is loaded for; nothing if it has no hook. -/
  hook : List Directive := []
  deriving Inhabited

/-- What loading leaves behind. -/
structure Loaded where
  /-- The registries. -/
  registries : Registries
  /-- The events, in order. -/
  events : List Event := []
  /-- Why loading stopped, if it did. -/
  failure : Option String := none
  deriving Inhabited

namespace Directive

/-- Carries out one directive on the registry that is meant. -/
def apply (scope : Scope) (rs : Registries) : Directive → Except String (Registries × List Event)
  | register name value =>
    match (rs.get scope).register name value with
    | .ok (r, events) => .ok (rs.set scope r, events)
    | .error e => .error e.message
  | fail reason => .error reason

/-- Carries out directives in order, up to the first that fails. -/
def applyAll (scope : Scope) : Registries → List Directive → Loaded
  | rs, [] => { registries := rs }
  | rs, d :: ds =>
    match d.apply scope rs with
    | .error reason => { registries := rs, failure := some reason }
    | .ok (rs, events) =>
      let rest := applyAll scope rs ds
      { rest with events := events ++ rest.events }

end Directive

/-- Loads a module: first what it does at once, and, unless that fails, its hook. -/
def RegistryModule.load (m : RegistryModule) (scope : Scope) (rs : Registries) : Loaded :=
  let first := Directive.applyAll .shared rs m.onLoad
  match first.failure with
  | some _ => first
  | none =>
    let second := Directive.applyAll scope first.registries m.hook
    { second with events := first.events ++ second.events }

end KeyCall
