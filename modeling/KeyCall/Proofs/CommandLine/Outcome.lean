import KeyCall.CommandLine.Report
import KeyCall.Kit.Catalogue
import KeyCall.Proofs.CommandLine.Spelling
import KeyCall.Proofs.Files.Loads
import KeyCall.Proofs.Files.Outcome
import KeyCall.Proofs.Json.Outline

/-!
# What processing on the command line comes to

A collection is processed in four steps: the registry modules are loaded, the file is loaded, the
templates are called, and what comes back is written.  Each of them may fail, if only because the
stack gives out, and the first that does is the one that is reported.  Nothing is printed before the
last step is done, so that the output is either the whole of what is written or nothing at all.  The
log is shown either way, up to where the steps got.

## Main definitions

* `Surroundings.Prints` — all four steps are done.
* `Surroundings.Fails` — one of the four steps is the first that fails.
* `codeOf`, `lineOf` — the exit code and the line for an error.

## Main results

* `Surroundings.prints_or_fails`, `Surroundings.Prints.not_fails` — it is one or the other.
* `Report.output_eq_empty` — no command line that fails prints anything on the output.
* `Report.process_all_or_nothing` — **processing prints everything or reports the first failure.**
-/

namespace KeyCall
namespace CommandLine

variable {σ : Type} {w : Surroundings σ} {file : String} {modules : List (Option String)}
  {layout : Json.Layout} {text : String} {e : Error} {stage : Stage σ}

namespace Surroundings

/-- The modules to load: those that come first, and then the given ones. -/
def allModules (w : Surroundings σ) (modules : List (Option String)) : List (Option String) :=
  (modulePaths w.modules).map some ++ modules

/-- The stage with more events in its log. -/
def stageWith (w : Surroundings σ) (events : List Event) : Stage σ :=
  { w.stage with log := w.stage.log ++ events }

/-- What processes collections under the names of the shared registry. -/
def dispatcher (w : Surroundings σ) (rs : Registries) : Dispatcher σ := ⟨w.host, rs.shared, {}⟩

/-- The modules and the collection are loaded, and this is what processing the collection under the
names of the modules gives. -/
inductive Processes (w : Surroundings σ) (file : String) (modules : List (Option String)) :
    Except Error Value → Stage σ → Prop
  | intro {rs : Registries} {events : List Event} {c : Value} {result : Except Error Value}
      {stage : Stage σ}
      (loads : w.disk.Loads .shared w.registries (w.allModules modules) rs events)
      (reads : w.disk.loadCollection file w.readers = .ok c)
      (runs : w.walk (w.dispatcher rs) c (w.stageWith events) = (result, stage)) :
      Processes w file modules result stage

/-- The collection is processed, and `text` is the document of what that gives. -/
inductive Prints (w : Surroundings σ) (file : String) (modules : List (Option String))
    (layout : Json.Layout) : String → Stage σ → Prop
  | intro {v : Value} {text : String} {stage : Stage σ}
      (processes : w.Processes file modules (.ok v) stage)
      (writes : w.write layout v = .ok text) :
      Prints w file modules layout text stage

/-- Something fails, and everything in front of it does not. -/
inductive Fails (w : Surroundings σ) (file : String) (modules : List (Option String))
    (layout : Json.Layout) : Error → Stage σ → Prop
  | module {e : Error} {rs : Registries} {events : List Event}
      (stops : w.disk.StopsLoading .shared w.registries (w.allModules modules) e rs events) :
      Fails w file modules layout e (w.stageWith events)
  | file {e : Error} {rs : Registries} {events : List Event}
      (loads : w.disk.Loads .shared w.registries (w.allModules modules) rs events)
      (fails : w.disk.loadCollection file w.readers = .error e) :
      Fails w file modules layout e (w.stageWith events)
  | template {e : Error} {stage : Stage σ} (fails : w.Processes file modules (.error e) stage) :
      Fails w file modules layout e stage
  | encoding {e : Error} {v : Value} {stage : Stage σ}
      (processes : w.Processes file modules (.ok v) stage)
      (fails : w.write layout v = .error e) :
      Fails w file modules layout e stage

/-! ### One or the other -/

/-- Once the modules and the collection are loaded, what counts is how processing ends. -/
theorem Processes.process_eq {result : Except Error Value}
    (h : w.Processes file modules result stage) (layout : Json.Layout) :
    w.process file modules layout =
      (do let v ← result
          let text ← w.write layout v
          .ok (text ++ "\n"), stage) := by
  obtain ⟨hloads, hreads, hruns⟩ := h
  have hloaded : w.loaded modules = _ := hloads.loadModules_eq
  unfold dispatcher stageWith at hruns
  rw [process, hloaded]
  simp only [hreads, hruns]

theorem Prints.process_eq (h : w.Prints file modules layout text stage) :
    w.process file modules layout = (.ok (text ++ "\n"), stage) := by
  obtain ⟨hprocesses, hwrites⟩ := h
  rw [hprocesses.process_eq]
  show (do let text ← w.write layout _; _, stage) = _
  rw [hwrites]
  rfl

theorem Fails.process_eq (h : w.Fails file modules layout e stage) :
    w.process file modules layout = (.error e, stage) := by
  cases h with
  | module hstops =>
    have hloaded : w.loaded modules = _ := hstops.loadModules_eq
    rw [process, hloaded]
    rfl
  | file hloads hfails =>
    have hloaded : w.loaded modules = _ := hloads.loadModules_eq
    rw [process, hloaded]
    simp only [hfails]
    rfl
  | template hfails =>
    rw [hfails.process_eq]
    rfl
  | encoding hprocesses hfails =>
    rw [hprocesses.process_eq]
    show (do let text ← w.write layout _; _, stage) = _
    rw [hfails]
    rfl

/-- Everything is printed, or something fails. -/
theorem prints_or_fails (w : Surroundings σ) (file : String) (modules : List (Option String))
    (layout : Json.Layout) :
    (∃ text stage, w.Prints file modules layout text stage) ∨
      ∃ e stage, w.Fails file modules layout e stage := by
  rcases w.disk.loads_or_stopsLoading .shared w.registries (w.allModules modules) with
    ⟨rs, events, hloads⟩ | ⟨e, rs, events, hstops⟩
  · cases hreads : w.disk.loadCollection file w.readers with
    | error e => exact .inr ⟨e, _, .file hloads hreads⟩
    | ok c =>
      obtain ⟨result, stage, hruns⟩ :
          ∃ result stage, w.walk (w.dispatcher rs) c (w.stageWith events) = (result, stage) :=
        ⟨_, _, rfl⟩
      have hprocesses : w.Processes file modules result stage := .intro hloads hreads hruns
      cases result with
      | error e => exact .inr ⟨e, stage, .template hprocesses⟩
      | ok v =>
        cases hwrites : w.write layout v with
        | error e => exact .inr ⟨e, stage, .encoding hprocesses hwrites⟩
        | ok text => exact .inl ⟨text, stage, .intro hprocesses hwrites⟩
  · exact .inr ⟨e, _, .module hstops⟩

/-- Where the stack holds, a value is written. -/
theorem write_eq_ok {v : Value} (h : w.write layout v = .ok text) :
    Json.writeWith w.host.describe layout v = .ok text := by
  unfold write at h
  split at h
  · cases h
  · exact h

/-- What is printed is a document. -/
theorem Prints.isDocument (h : w.Prints file modules layout text stage) :
    Json.IsDocument text.toList := by
  obtain ⟨-, hwrites⟩ := h
  exact Json.isDocument_writeWith (write_eq_ok hwrites)

/-- What fails is not printed. -/
theorem Prints.not_fails {stage' : Stage σ} (h : w.Prints file modules layout text stage) :
    ¬ w.Fails file modules layout e stage' := by
  intro hfails
  have hprocess := h.process_eq
  rw [hfails.process_eq] at hprocess
  cases hprocess

end Surroundings

/-! ### Reports -/

/-- The exit code for an error: parse errors, resolution errors and input errors have their own. -/
def codeOf (e : Error) : Nat :=
  match e.kind with
  | .parse => 2
  | .resolution => 3
  | .input => 4
  | _ => 1

/-- The line for an error, which says of what class it is unless it is one of the program's own. -/
def lineOf (e : Error) : String :=
  match e.kind with
  | .general | .parse | .resolution | .input => "Error: " ++ e.message ++ "\n"
  | kind => "Unexpected error: " ++ kind.label ++ ": " ++ e.message ++ "\n"

theorem exitCode_eq_codeOf (e : Error) : e.exitCode = codeOf e := by
  unfold Error.exitCode ErrorKind.exitCode codeOf
  cases e.kind <;> rfl

theorem errorLine_eq_lineOf (e : Error) : errorLine e = lineOf e := by
  unfold errorLine Error.isOwn lineOf
  cases e.kind <;> rfl

/-- The log as it is shown, if it is asked for. -/
def shownLog (verbose : Bool) (stage : Stage σ) : String :=
  if verbose then Page.textOf (stage.log.map Event.line) else ""

namespace Report

/-- What is asked for is carried out and reported. -/
theorem ofArguments_of_request {args : List String} {request : Request}
    (h : Request.ofArguments args = .ok request) {outcome : Except Error String}
    (houtcome : w.perform request.action = (outcome, stage)) :
    ofArguments w args = ofOutcome request.verbose stage.log outcome := by
  rw [ofArguments, h]
  simp only [houtcome]

/-- **No command line that fails prints anything on the output.** -/
theorem output_eq_empty (w : Surroundings σ) (args : List String)
    (h : (ofArguments w args).exitCode ≠ 0) : (ofArguments w args).output = "" := by
  cases hrequest : Request.ofArguments args with
  | error stop =>
    rw [ofArguments, hrequest] at h ⊢
    cases stop with
    | help page => exact absurd rfl h
    | misuse page m => rfl
  | ok request =>
    obtain ⟨outcome, stage, houtcome⟩ :
        ∃ outcome stage, w.perform request.action = (outcome, stage) := ⟨_, _, rfl⟩
    rw [ofArguments_of_request hrequest houtcome] at h ⊢
    cases outcome with
    | ok text => exact absurd rfl h
    | error e => rfl

/-- A module that registers one function, under another name. -/
def sayModule : RegistryModule :=
  { hook := [.register "say" (.target ⟨"echo", .function "echo"⟩ [])] }

/-- A mapping with one template. -/
def sayRow : Value := .mapping .plain [(.text "$\x7bsay(?)\x7d:k", .text "x")]

/-- Its text. -/
def sayText : String := "\x7b\"$\x7bsay(?)\x7d:k\": \"x\"\x7d"

/-- A day, and nothing under it. -/
def dayText : String := "2024-01-02:"

/-- A mapping of that day to nothing. -/
def dayRow : Value := .mapping .plain [(.date ⟨2024, 1, 2⟩, .null)]

/-- What the YAML package makes of the day; any other text is malformed here. -/
def dayReader : Yaml.Reader := fun arrival =>
  if arrival.text = dayText.toList then .ok dayRow else .error (.malformed "")

/-- The readers with it. -/
def dayReaders : Readers := { yaml := dayReader }

/-- A disk with the module and both mappings. -/
def sayDisk : Disk :=
  { root := "/w"
    nodes := [(⟨0, ["k.py"]⟩, .registryModule sayModule),
      (⟨0, ["a.json"]⟩, .file (Text.encodeUtf8 sayText)),
      (⟨0, ["b.yaml"]⟩, .file (Text.encodeUtf8 dayText))] }

/-- The surroundings with that disk. -/
def saySurroundings : Surroundings Kit.State :=
  { host := Kit.host, disk := sayDisk, stage := { state := {} }, readers := dayReaders }

theorem loadCollection_sayRow : sayDisk.loadCollection "a.json" dayReaders = .ok sayRow := by
  have hfile : sayDisk.HasFile "a.json" (.file (Text.encodeUtf8 sayText)) :=
    ⟨by decide, by decide, by rfl, DiskNode.noConfusion⟩
  have hformat : Format.ofSuffix? (Location.ofText "a.json").suffix = some .json := by
    decide +kernel
  have hdecode : Text.decodeUtf8 (Text.encodeUtf8 sayText) = .ok sayText.toList := by cbv
  have hread : Json.read (Text.unifyLines sayText.toList) = .ok sayRow := by cbv
  exact hfile.loadCollection_of_read hformat (Format.read_json_of_decodeUtf8 hdecode hread) rfl

theorem loadCollection_dayRow {d : Disk}
    (h : d.HasFile "b.yaml" (.file (Text.encodeUtf8 dayText))) :
    d.loadCollection "b.yaml" dayReaders = .ok dayRow := by
  have hformat : Format.ofSuffix? (Location.ofText "b.yaml").suffix = some .yaml := by
    decide +kernel
  have hdecode : Text.decodeUtf8 (Text.encodeUtf8 dayText) = .ok dayText.toList := by cbv
  refine h.loadCollection_of_read hformat ?_ rfl
  rw [Format.read_yaml_of_decodeUtf8 hdecode]
  rfl

/-- The registries when the module is loaded. -/
def sayRegistries : Registries :=
  { shared := ⟨[("say", .target ⟨"echo", .function "echo"⟩ [])]⟩ }

theorem loads_sayModule :
    sayDisk.Loads .shared {} [some "k.py"] sayRegistries [.moduleLoaded "k.py" 1] := by
  have hload : sayDisk.loadModule "k.py" .shared {} =
      (.ok (), sayRegistries, [.moduleLoaded "k.py" 1]) := by rfl
  exact .cons hload (.nil _)

theorem loadModule_sayDisk_of_missing :
    sayDisk.loadModule "m.py" .shared {} = (.error (.moduleMissing "/w/m.py"), {}, []) := by rfl

/-- What comes of the mapping with the template. -/
def saidRow : Value := .mapping .plain [(.text "k", .list [.text "x"])]

theorem processes_sayRow :
    saySurroundings.Processes "a.json" [some "k.py"] (.ok saidRow)
      ⟨{}, [.moduleLoaded "k.py" 1, .callingFunction "say" 1 "k"]⟩ := by
  refine .intro loads_sayModule loadCollection_sayRow ?_
  cbv

theorem processes_sayRow_of_unknown :
    saySurroundings.Processes "a.json" [] (.error (.unknownName "function" "say" [])) ⟨{}, []⟩ := by
  refine .intro (.nil _) loadCollection_sayRow ?_
  cbv

theorem processes_dayRow :
    saySurroundings.Processes "b.yaml" [some "k.py"] (.ok dayRow)
      ⟨{}, [.moduleLoaded "k.py" 1]⟩ := by
  have hfile : sayDisk.HasFile "b.yaml" (.file (Text.encodeUtf8 dayText)) :=
    ⟨by decide, by decide, by rfl, DiskNode.noConfusion⟩
  refine .intro loads_sayModule (loadCollection_dayRow hfile) ?_
  cbv

theorem lineOf_unknownSay :
    lineOf (.unknownName "function" "say" []) =
      "Error: Unknown function: 'say'. Registered: []\n" := by
  have hnames : Error.sortedNames [] = [] := by simp [Error.sortedNames]
  have hquoted : Text.quoted "say" = "'say'" := by decide +kernel
  unfold lineOf Error.message
  simp only [hnames, hquoted]
  rfl

end Report
end CommandLine
end KeyCall
