import KeyCall.Collection
import KeyCall.CommandLine.Request
import KeyCall.Files.Loading
import KeyCall.Template.Reading

/-!
# Reports

What a command line comes to: an exit code and what is printed, on the output and beside it.  The
log and the errors go beside the output.

Walking over a collection and writing it are recursions, and how deep they can go depends on how
much of the stack is left.  That is no part of a command line, so the surroundings say it.

## Main definitions

* `Report`: what a command line comes to.
* `Stack`: where the stack gives out.
* `Surroundings`: what a command line is carried out in.
* `Surroundings.perform`: carries out an action.
* `Report.ofArguments`: carries out a command line.
-/

namespace KeyCall
namespace CommandLine

/-- What a command line comes to. -/
structure Report where
  /-- The exit code. -/
  exitCode : Nat := 0
  /-- What is printed on the output. -/
  output : String := ""
  /-- What is printed beside it. -/
  errors : String := ""
  deriving DecidableEq, Repr, Inhabited

/-- The report of a command line that makes no request. -/
def Stop.report : Stop → Report
  | .help page => { output := page.help }
  | .misuse page m =>
    { exitCode := 2
      errors := s!"{page.usage}{page.program}: error: {m.message}\n" }

/-- The line that reports an error. -/
def errorLine (e : Error) : String :=
  if e.isOwn then s!"Error: {e.message}\n"
  else s!"Unexpected error: {e.kind.label}: {e.message}\n"

/-- The paths between colons; empty ones do not count. -/
def modulePaths (text : String) : List String :=
  (Text.split ':' text).filter fun p => !p.isEmpty

/-- Reads a template, and writes its pieces. -/
def parse (template : String) : Except Error String := do
  let t ← Template.parse template
  let optional (s : Option String) : Value := (s.map Value.text).getD .null
  let pieces : List (String × Value) :=
    [("class", optional t.className), ("properties", optional t.properties),
      ("method", .text t.method), ("params", optional t.params), ("outkey", .text t.outkey),
      ("shape", .text t.shape.label)]
  let entries := pieces.map fun (name, v) => (Value.text name, v)
  let text ← Json.write Value.asText .pretty (.mapping .plain entries)
  .ok (text ++ "\n")

/-- Where the stack gives out: what the message says of the place, if it does not hold. -/
structure Stack (σ : Type) where
  /-- While a collection is processed, and what was done until then. -/
  processing? : Dispatcher σ → Value → Stage σ → Option (String × Stage σ) := fun _ _ _ => none
  /-- While a collection is validated. -/
  validating? : Value → Option String := fun _ => none
  /-- While a value is written. -/
  writing? : Json.Layout → Value → Option String := fun _ _ => none

/-- What a command line is carried out in. -/
structure Surroundings (σ : Type) where
  /-- The host. -/
  host : Host σ
  /-- The files. -/
  disk : Disk
  /-- The registry modules that are loaded in front of all others, between colons. -/
  modules : String := ""
  /-- The registries. -/
  registries : Registries := {}
  /-- The host's state and the log. -/
  stage : Stage σ
  /-- What files are read with. -/
  readers : Readers := {}
  /-- Where the stack gives out. -/
  stack : Stack σ := {}

namespace Surroundings

variable {σ : Type} (w : Surroundings σ)

/-- Loads registry modules, those that come first and then the given ones, for the shared
registry. -/
def loaded (modules : List (Option String)) : Except Error Unit × Registries × List Event :=
  w.disk.loadModules .shared w.registries ((modulePaths w.modules).map some ++ modules)

/-- Walks over a collection and makes the calls of its templates, as far as the stack holds. -/
def walk (d : Dispatcher σ) (c : Value) (stage : Stage σ) : Except Error Value × Stage σ :=
  match w.stack.processing? d c stage with
  | some (place, stage) => (.error (.stackExhausted place), stage)
  | none => (d.processCollection c).run stage

/-- Writes a value, as far as the stack holds. -/
def write (layout : Json.Layout) (v : Value) : Except Error String :=
  match w.stack.writing? layout v with
  | some place => .error (.stackExhausted place)
  | none => Json.writeWith w.host.describe layout v

/-- Reads the templates of a collection, as far as the stack holds. -/
def templates (c : Value) : Except Error (List String) :=
  match w.stack.validating? c with
  | some place => .error (.stackExhausted place)
  | none => validateCollection c

/-- Processes a collection, and writes it. -/
def process (file : String) (modules : List (Option String)) (layout : Json.Layout) :
    Except Error String × Stage σ :=
  let (result, registries, events) := w.loaded modules
  let stage := { w.stage with log := w.stage.log ++ events }
  match result, w.disk.loadCollection file w.readers with
  | .error e, _ => (.error e, stage)
  | .ok _, .error e => (.error e, stage)
  | .ok _, .ok c =>
    let (result, stage) := w.walk ⟨w.host, registries.shared, {}⟩ c stage
    let written : Except Error String := do
      let v ← result
      let text ← w.write layout v
      .ok (text ++ "\n")
    (written, stage)

/-- Validates a collection, and lists its templates. -/
def validate (file : String) : Except Error String := do
  let c ← w.disk.loadCollection file w.readers
  let ts ← w.templates c
  .ok (Page.textOf (s!"Valid: {file}" :: s!"  Templates: {ts.length}" :: ts.map ("    " ++ ·)))

/-- Carries out an action. -/
def perform : Action → Except Error String × Stage σ
  | .overview => (.ok Page.overview.help, w.stage)
  | .process file modules layout => w.process file modules layout
  | .validate file => (w.validate file, w.stage)
  | .parse template => (CommandLine.parse template, w.stage)

end Surroundings

namespace Report

/-- The report of an action's outcome.  The log is shown if it is asked for. -/
def ofOutcome (verbose : Bool) (log : List Event) (outcome : Except Error String) : Report :=
  let shown := if verbose then Page.textOf (log.map Event.line) else ""
  match outcome with
  | .ok text => { output := text, errors := shown }
  | .error e => { exitCode := e.exitCode, errors := shown ++ errorLine e }

/-- Carries out a command line. -/
def ofArguments {σ : Type} (w : Surroundings σ) (args : List String) : Report :=
  match Request.ofArguments args with
  | .error stop => stop.report
  | .ok request =>
    let (outcome, stage) := w.perform request.action
    ofOutcome request.verbose stage.log outcome

end Report
end CommandLine
end KeyCall
