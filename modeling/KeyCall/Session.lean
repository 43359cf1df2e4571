import KeyCall.Collection
import KeyCall.Files.Disk

/-!
# Sessions

A session is a registry of one's own beside the shared one, a processor over one of them, and the
stage that its calls leave behind.  It takes commands one at a time; a command that fails keeps
what it had done before it failed.

## Main definitions

* `Session`: the state between commands.
* `Command`: what a session can be told.
* `Reply`: what it answers.
* `Session.perform`: carries out a command.
-/

namespace KeyCall

/-- The state between commands. -/
structure Session (σ : Type) where
  /-- The two registries. -/
  registries : Registries := {}
  /-- The registry that the session's processor uses. -/
  processorScope : Scope := .own
  /-- The naming rules of the session's processor. -/
  naming : Naming := {}
  /-- The host's state and the log. -/
  stage : Stage σ

/-- What a session can be told.  The scope says which registry is meant; in the shared one, entries
are processed by the usual naming rules. -/
inductive Command
  /-- Register a target under a name. -/
  | register (scope : Scope) (name : Option String) (target : Value)
  /-- Register a target under a name or its own. -/
  | registerAs (scope : Scope) (name : Option String) (target : Value)
  /-- Remove a name. -/
  | unregister (scope : Scope) (name : String)
  /-- Remove all names. -/
  | clear (scope : Scope)
  /-- Look up a name. -/
  | get (scope : Scope) (name : String)
  /-- Ask whether a name is there. -/
  | contains (scope : Scope) (name : String)
  /-- Ask for the number of names. -/
  | size (scope : Scope)
  /-- Resolve a name taken for something. -/
  | resolve (scope : Scope) (role name : String)
  /-- Resolve a method and call it. -/
  | callMethod (owner : Value) (method : String) (args : List Value)
  /-- Process an entry. -/
  | process (scope : Scope) (key value : Value)
  /-- Process a collection. -/
  | processCollection (scope : Scope) (collection : Value)
  /-- Validate a collection. -/
  | validateCollection (collection : Value)
  /-- Dispatch a template, given as such or still to be read. -/
  | invoke (scope : Scope) (template : Except Error Template) (value : Value)
  /-- Name the presenting class of a template. -/
  | presenterName (scope : Scope) (template : Except Error Template)
  /-- Load a registry module. -/
  | loadModule (scope : Scope) (path : String)

/-- What a session answers. -/
inductive Reply
  /-- Nothing. -/
  | done
  /-- A value. -/
  | value (v : Value)
  /-- A function that registers what it is given. -/
  | registrar
  /-- A key with its value. -/
  | entry (key value : Value)
  /-- The texts of templates. -/
  | templates (ts : List String)
  /-- A name, if there is one. -/
  | name (n : Option String)

namespace Session

variable {σ : Type}

/-- The session's processor, or the one over the shared registry. -/
def dispatcher (s : Session σ) (h : Host σ) : Scope → Dispatcher σ
  | .own => ⟨h, s.registries.get s.processorScope, s.naming⟩
  | .shared => ⟨h, s.registries.shared, {}⟩

/-- Carries out a run on the session's stage. -/
def runOn {α : Type} (s : Session σ) (r : Run σ α) (reply : α → Reply) :
    Except Error Reply × Session σ :=
  let (result, stage) := r.run s.stage
  (result.map reply, { s with stage })

/-- Takes over a changed registry and its events. -/
def update (s : Session σ) (scope : Scope) (reply : Reply)
    (change : Except Error (Registry × List Event)) : Except Error Reply × Session σ :=
  match change with
  | .error e => (.error e, s)
  | .ok (r, events) =>
    let stage := { s.stage with log := s.stage.log ++ events }
    (.ok reply, { s with registries := s.registries.set scope r, stage })

/-- Carries out a command. -/
def perform (s : Session σ) (h : Host σ) (disk : Disk) (c : Command) :
    Except Error Reply × Session σ :=
  match c with
  | .register .own name target =>
    s.update .own .done (s.registries.own.register (name.getD "") target)
  | .register .shared name target =>
    match target with
    | .null => (.ok .registrar, s)
    | _ => s.update .shared (.value target) (s.registries.shared.registerAs name target)
  | .registerAs scope name target =>
    s.update scope (.value target) ((s.registries.get scope).registerAs name target)
  | .unregister scope name =>
    s.update scope .done (.ok ((s.registries.get scope).unregister name, []))
  | .clear scope => s.update scope .done (.ok ((s.registries.get scope).clear, []))
  | .get scope name => (.ok (.value (((s.registries.get scope).get? name).getD .null)), s)
  | .contains scope name => (.ok (.value (.bool ((s.registries.get scope).contains name))), s)
  | .size scope => (.ok (.value (.int (s.registries.get scope).size)), s)
  | .resolve scope role name =>
    (((s.registries.get scope).resolve role name).map Reply.value, s)
  | .callMethod owner method args =>
    s.runOn (do let f ← Run.lift (h.resolveMethod owner method); Run.call h f args) .value
  | .process scope key value =>
    s.runOn ((s.dispatcher h scope).process key value) fun (k, v) => .entry k v
  | .processCollection scope collection =>
    s.runOn ((s.dispatcher h scope).processCollection collection) .value
  | .validateCollection collection => ((KeyCall.validateCollection collection).map .templates, s)
  | .invoke scope template value =>
    s.runOn (do
      let t ← Run.lift template
      let v ← (s.dispatcher h scope).invoke t value
      pure (t.outkey, v)) fun (k, v) => .entry (.text k) v
  | .presenterName scope template =>
    ((do let t ← template; (s.dispatcher h scope).naming.presenterName t).map .name, s)
  | .loadModule scope path =>
    let (result, registries, events) := disk.loadModule path scope s.registries
    let stage := { s.stage with log := s.stage.log ++ events }
    (result.map fun _ => .done, { s with registries, stage })

end Session
end KeyCall
