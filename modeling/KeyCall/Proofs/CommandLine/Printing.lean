import KeyCall.Proofs.CommandLine.Outcome
import KeyCall.Proofs.Files.Contents
import KeyCall.Proofs.Json.Keys
import KeyCall.Proofs.Json.Unambiguous
import Mathlib

/-!
# What is printed of a collection without templates

A collection without templates is processed to itself, but for its tuples, which are written as
lists are, and then it is written.  Writing it fails if an integer in it has too many digits, if a
key in it is a day or anything else that JSON has no name for, or if no text can be made of an
object: the values of a mapping that JSON lacks are written as texts, and its keys are not.
Otherwise the whole collection is printed, as far as the stack holds.  Nothing is left out of the
document, but entries whose keys become the same name can no longer be told apart.

Of a collection that was loaded from JSON, everything is printed, under names that differ.  Of YAML
no more is known than that its reader is safe.

## Main definitions

* `Surroundings.StackHolds` — the stack holds while a collection is processed and written.

## Main results

* `Surroundings.processes_of_noTemplates` — without templates, a collection is processed to itself.
* `Report.process_prints_members` — **what is printed of a collection without templates.**
-/

namespace KeyCall
namespace CommandLine

variable {σ : Type} {w : Surroundings σ} {file : String} {modules : List (Option String)}
  {rs : Registries} {events : List Event} {c : Value}

namespace Surroundings

/-- The stack holds while a collection without templates is processed under the names of some
registries, and while what comes of it is written. -/
structure StackHolds (w : Surroundings σ) (rs : Registries) (stage : Stage σ)
    (layout : Json.Layout) (c : Value) : Prop where
  processing : w.stack.processing? (w.dispatcher rs) c stage = none
  writing : w.stack.writing? layout c.listed = none

/-- Without templates, a collection is processed to itself, and nothing is called. -/
theorem processes_of_noTemplates (hsafe : w.readers.yaml.IsSafe)
    (hloads : w.disk.Loads .shared w.registries (w.allModules modules) rs events)
    (hreads : w.disk.loadCollection file w.readers = .ok c)
    (hnone : templateTexts c.scalarEntries = [])
    (hholds : w.stack.processing? (w.dispatcher rs) c (w.stageWith events) = none) :
    w.Processes file modules (.ok c.listed) (w.stageWith events) := by
  have hc : c.isCollection = true := (Disk.exists_read_of_loadCollection hreads).1
  have husual : c.Everywhere Value.IsUsual :=
    Disk.everywhere_isUsual_of_loadCollection hsafe hreads
  refine .intro hloads hreads ?_
  rw [walk, hholds]
  simp only
  rw [Dispatcher.processCollection, Handler.processCollection_eq_processNested _ hc,
    (Handler.processNested_of_noTemplates _).1 c husual hnone]
  rfl

/-- What is written of a collection without templates is what is written of the collection. -/
theorem write_listed {layout : Json.Layout} (husual : c.Everywhere Value.IsUsual)
    (hholds : w.stack.writing? layout c.listed = none) :
    w.write layout c.listed = Json.writeWith w.host.describe layout c := by
  rw [write, hholds]
  exact Json.writeAt_listed.1 c husual 0

/-- If the stack gives out, that is the first failure. -/
theorem fails_of_not_stackHolds {layout : Json.Layout} (hsafe : w.readers.yaml.IsSafe)
    (hloads : w.disk.Loads .shared w.registries (w.allModules modules) rs events)
    (hreads : w.disk.loadCollection file w.readers = .ok c)
    (hnone : templateTexts c.scalarEntries = [])
    (hgives : ¬ w.StackHolds rs (w.stageWith events) layout c) :
    ∃ place stage, w.Fails file modules layout (.stackExhausted place) stage := by
  cases hprocessing : w.stack.processing? (w.dispatcher rs) c (w.stageWith events) with
  | some found =>
    obtain ⟨place, stage⟩ := found
    refine ⟨place, stage, .template (.intro hloads hreads ?_)⟩
    rw [walk, hprocessing]
  | none =>
    have hprocesses := processes_of_noTemplates hsafe hloads hreads hnone hprocessing
    cases hwriting : w.stack.writing? layout c.listed with
    | some place =>
      refine ⟨place, _, .encoding hprocesses ?_⟩
      rw [write, hwriting]
    | none => exact absurd ⟨hprocessing, hwriting⟩ hgives

end Surroundings

theorem codeOf_ne_zero (e : Error) : codeOf e ≠ 0 := by
  rw [← exitCode_eq_codeOf]
  exact Nat.ne_of_gt e.kind.exitCode_pos

namespace Report

/-- **What is printed of a collection without templates.**  Where the stack holds and everything in
it can be written, the document has a member for every key of every mapping, and otherwise nothing
is printed.  The members of an object differ in their names where the keys become different ones:
for keys that differ, that can fail only if one of them is a text or both are fractional numbers.
What was loaded from JSON can be written, under names that differ. -/
theorem process_prints_members (hsafe : w.readers.yaml.IsSafe) (verbose : Bool)
    (options : List String) (layout : Json.Layout)
    (hloads : w.disk.Loads .shared w.registries (w.allModules (options.map attached)) rs events)
    (hreads : w.disk.loadCollection file w.readers = .ok c)
    (hnone : templateTexts c.scalarEntries = []) :
    let request : Request := ⟨verbose, .process file (options.map attached) layout⟩
    let stage := w.stageWith events
    let log := shownLog verbose stage
    let written := Json.writeWith w.host.describe layout c
    (∀ args, Request.ofArguments args = .ok request →
      (w.StackHolds rs stage layout c →
        (c.Everywhere (Json.IsWritten w.host.describe) → ∃ text, written = .ok text ∧
          (∀ o, Json.HasOutline text.toList o ↔ o = Json.outline c) ∧
          ofArguments w args = { exitCode := 0, output := text ++ "\n", errors := log }) ∧
        (¬ c.Everywhere (Json.IsWritten w.host.describe) → ∃ e, written = .error e ∧
          Json.IsWriteError w.host.describe e ∧ codeOf e ≠ 0 ∧
          ofArguments w args =
            { exitCode := codeOf e, output := "", errors := log ++ lineOf e })) ∧
      (¬ w.StackHolds rs stage layout c → ∃ (place : String) (stage' : Stage σ),
        ofArguments w args =
          { exitCode := 1
            output := ""
            errors := shownLog verbose stage' ++ lineOf (.stackExhausted place) })) ∧
    ((Json.outline c).Distinct ↔ c.Everywhere Json.KeysTold) ∧
    (∀ k k', Json.IsKey k → Json.IsKey k' → Value.sameKey k k' = false →
      Json.keyUnits k = Json.keyUnits k' →
        (∃ s, k = .text s ∨ k' = .text s) ∨ ∃ x y, k = .float x ∧ k' = .float y) ∧
    (Format.ofSuffix? (Location.ofText file).suffix = some .json →
      c.Everywhere (Json.IsWritten w.host.describe) ∧ c.Everywhere Json.KeysTold) := by
  intro request stage log written
  have husual : c.Everywhere Value.IsUsual :=
    Disk.everywhere_isUsual_of_loadCollection hsafe hreads
  refine ⟨fun args hargs => ⟨fun hholds => ?_, fun hgives => ?_⟩,
    Json.distinct_outline_iff.1 c husual, fun k k' => Json.text_or_float_of_keyUnits_eq,
    fun hjson => ?_⟩
  · have hprocesses :=
      Surroundings.processes_of_noTemplates hsafe hloads hreads hnone hholds.processing
    have hlisted := Surroundings.write_listed husual hholds.writing
    rcases Json.writesIf_writeAt.1 c husual 0 with ⟨text, hwrites, hwritten⟩ | ⟨e, hfails, he, hno⟩
    · have hprints : w.Prints file (options.map attached) layout text stage :=
        .intro hprocesses (hlisted.trans hwrites)
      refine ⟨fun _ => ⟨text, hwrites, fun o => Json.hasOutline_iff_of_writeWith hwrites, ?_⟩,
        fun h => absurd hwritten h⟩
      rw [ofArguments_of_request hargs hprints.process_eq]
      rfl
    · have hstops : w.Fails file (options.map attached) layout e stage :=
        .encoding hprocesses (hlisted.trans hfails)
      refine ⟨fun h => absurd h hno, fun _ => ⟨e, hfails, he, codeOf_ne_zero e, ?_⟩⟩
      rw [ofArguments_of_request hargs hstops.process_eq, ← exitCode_eq_codeOf,
        ← errorLine_eq_lineOf]
      rfl
  · obtain ⟨place, stage', hstops⟩ :=
      Surroundings.fails_of_not_stackHolds hsafe hloads hreads hnone hgives
    refine ⟨place, stage', ?_⟩
    rw [ofArguments_of_request hargs hstops.process_eq, ← errorLine_eq_lineOf]
    rfl
  · have hread := Disk.everywhere_isRead_of_loadCollection hjson hreads
    exact ⟨hread.mono fun v hv => hv.isWritten _, hread.mono fun v => Json.IsRead.keysTold⟩

/-- A disk with an empty list in a file, and in another one a mapping whose key is a day. -/
def plainDisk : Disk :=
  { root := "/w"
    nodes := [(⟨0, ["a.json"]⟩, .file (Text.encodeUtf8 "[]")),
      (⟨0, ["b.yaml"]⟩, .file (Text.encodeUtf8 dayText))] }

theorem isSafe_dayReader : dayReader.IsSafe := by
  intro arrival v h
  unfold dayReader at h
  split at h
  · cases h
    refine .mapping ⟨rfl, List.pairwise_singleton _ _⟩ fun e he => ?_
    rw [List.mem_singleton.1 he]
    exact Value.everywhere_isUsual_of_scalar rfl
  · cases h

theorem loadCollection_plainDisk :
    plainDisk.loadCollection "a.json" dayReaders = .ok (.list []) := by
  have hfile : plainDisk.HasFile "a.json" (.file (Text.encodeUtf8 "[]")) :=
    ⟨by decide, by decide, by rfl, DiskNode.noConfusion⟩
  have hformat : Format.ofSuffix? (Location.ofText "a.json").suffix = some .json := by
    decide +kernel
  have hdecode : Text.decodeUtf8 (Text.encodeUtf8 "[]") = .ok ['[', ']'] := by cbv
  have hread : Json.read (Text.unifyLines ['[', ']']) = .ok (.list []) := by cbv
  exact hfile.loadCollection_of_read hformat (Format.read_json_of_decodeUtf8 hdecode hread) rfl

theorem loadCollection_plainDisk_dayRow :
    plainDisk.loadCollection "b.yaml" dayReaders = .ok dayRow :=
  loadCollection_dayRow ⟨by decide, by decide, by rfl, DiskNode.noConfusion⟩

/-- A day is no key that can be written; an empty list is printed, unless the stack gives out. -/
theorem process_prints_members_of_dayKey :
    let w : Surroundings Kit.State :=
      { host := Kit.host, disk := plainDisk, stage := { state := {} }, readers := dayReaders }
    let full : Stack Kit.State := { processing? := fun _ _ stage => some ("", stage) }
    ofArguments w (processLine false [] .pretty "b.yaml") =
        { exitCode := 1
          errors := "Unexpected error: TypeError: keys must be str, int, float, bool or None, " ++
            "not date\n" } ∧
      ofArguments w (processLine false [] .pretty "a.json") = { output := "[]\n" } ∧
      ∃ place, ofArguments { w with stack := full } (processLine false [] .pretty "a.json") =
        { exitCode := 1, errors := lineOf (.stackExhausted place) } := by
  intro w full
  have hnone : w.disk.Loads .shared {} (w.allModules []) {} [] := .nil _
  refine ⟨?_, ?_, ?_⟩
  · obtain ⟨hreport, -⟩ := process_prints_members (w := w) isSafe_dayReader false [] .pretty
      hnone loadCollection_plainDisk_dayRow rfl
    have hkey : ¬ dayRow.Everywhere (Json.IsWritten Kit.host.describe) := by
      intro h
      rcases h.here _ List.mem_cons_self with hleaf | ⟨s, hs⟩
      · cases hleaf
      · cases hs
    obtain ⟨e, hfails, -, -, hreport⟩ :=
      ((hreport _ (Request.ofArguments_processLine false [] .pretty "b.yaml")).1 ⟨rfl, rfl⟩).2 hkey
    cases hfails
    rw [hreport]
    rfl
  · obtain ⟨hreport, -⟩ := process_prints_members (w := w) isSafe_dayReader false [] .pretty
      hnone loadCollection_plainDisk rfl
    obtain ⟨text, hwrites, -, hreport⟩ :=
      ((hreport _ (Request.ofArguments_processLine false [] .pretty "a.json")).1 ⟨rfl, rfl⟩).1
        (.list trivial (List.forall_mem_nil _))
    cases hwrites
    exact hreport
  · obtain ⟨hreport, -⟩ := process_prints_members (w := { w with stack := full })
      isSafe_dayReader false [] .pretty hnone loadCollection_plainDisk rfl
    obtain ⟨place, stage, hreport⟩ :=
      (hreport _ (Request.ofArguments_processLine false [] .pretty "a.json")).2 fun h => by
        cases h.processing
    exact ⟨place, hreport⟩

end Report
end CommandLine
end KeyCall
