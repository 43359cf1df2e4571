import KeyCall.Files.Imports
import KeyCall.Proofs.Files.Loads

/-!
# What a failing module leaves behind

A registry module can fail at any of its registrations, at once or in its hook.  The error says so,
and the module is in the table no longer.  The registries are not put back: the registrations that
were made up to there remain, those that replaced a target included, and they are all that remains.

## Main definitions

* `Directive.refusal?` — why a directive fails.
* `Directive.StopsAt`, `RegistryModule.StopsAt` — the registrations up to a failure, and its reason.
* `Registries.registered` — registrations made one after the other in one of the registries.
* `Disk.HasModule` — there is a registry module at a path, and this is it.

## Main results

* `RegistryModule.StopsAt.load_eq`, `RegistryModule.exists_stopsAt_iff` — how a module fails.
* `Disk.failing_import_keeps_registrations` — **what was registered before the failure remains.**
* `Disk.failing_import_leaves_trace` — so a module that fails is not always without one.
-/

namespace KeyCall

/-! ### Registrations -/

/-- The registries after some registrations in one of them. -/
def Registries.registered (rs : Registries) (scope : Scope) (made : List (String × Value)) :
    Registries :=
  rs.set scope ⟨Entries.putAll (· == ·) (rs.get scope).entries made⟩

namespace Registries

variable (rs : Registries) (scope scope' : Scope) (made more : List (String × Value))

@[simp] theorem registered_nil : rs.registered scope [] = rs := by
  cases scope <;> rfl

theorem registered_append :
    rs.registered scope (made ++ more) = (rs.registered scope made).registered scope more := by
  cases scope <;> simp [registered, set, get, Entries.putAll_append]

/-- Registrations in one registry leave the other one as it is. -/
theorem get_registered :
    ((rs.registered scope made).get scope').entries =
      Entries.putAll (· == ·) (rs.get scope').entries (if scope' = scope then made else []) := by
  cases scope <;> cases scope' <;> rfl

end Registries

/-! ### Directives -/

namespace Directive

/-- Why a directive fails, if it does. -/
def refusal? : Directive → Option String
  | register name value =>
    if value.isCallable then none else some (Error.notCallable value (.text name)).message
  | fail reason => some reason

/-- The directives up to one that fails make these registrations, and that one fails for the
reason. -/
def StopsAt (ds : List Directive) (made : List (String × Value)) (reason : String) : Prop :=
  ∃ front d back, ds = front ++ d :: back ∧ (∀ x ∈ front, x.refusal? = none) ∧
    made = front.filterMap registration? ∧ d.refusal? = some reason

variable {ds : List Directive} (scope : Scope)

theorem apply_of_refusal? {d : Directive} {reason : String} (h : d.refusal? = some reason)
    (rs : Registries) : d.apply scope rs = .error reason := by
  cases d with
  | fail r =>
    cases h
    rfl
  | register name value =>
    rw [refusal?] at h
    rw [apply, Registry.register]
    split at h
    · cases h
    · next hcallable =>
      cases h
      rw [if_neg hcallable]

theorem apply_of_refusal?_eq_none {d : Directive} (h : d.refusal? = none) (rs : Registries) :
    ∃ events, d.apply scope rs =
      .ok (rs.registered scope (registration? d).toList, events) := by
  cases d with
  | fail r => cases h
  | register name value =>
    rw [refusal?] at h
    split at h
    · next hcallable =>
      rw [apply, Registry.register, if_pos hcallable]
      exact ⟨_, rfl⟩
    · cases h

/-- Directives that do not fail are carried out before the ones that follow. -/
theorem applyAll_append {front : List Directive} (hfront : ∀ x ∈ front, x.refusal? = none)
    (back : List Directive) (rs : Registries) :
    ∃ events,
      applyAll scope rs (front ++ back) =
        let rest := applyAll scope (rs.registered scope (front.filterMap registration?)) back
        { rest with events := events ++ rest.events } := by
  induction front generalizing rs with
  | nil => exact ⟨[], by simp⟩
  | cons d front ih =>
    obtain ⟨hd, hfront⟩ := List.forall_mem_cons.1 hfront
    obtain ⟨events, happly⟩ := apply_of_refusal?_eq_none scope hd rs
    obtain ⟨more, hrest⟩ := ih hfront (rs.registered scope (registration? d).toList)
    have hmade : (d :: front).filterMap registration? =
        (registration? d).toList ++ front.filterMap registration? := by
      rw [List.filterMap_cons]
      cases registration? d <;> rfl
    refine ⟨events ++ more, ?_⟩
    rw [List.cons_append, applyAll, happly, hmade, Registries.registered_append]
    simp only [hrest, List.append_assoc]

/-- Directives that do not fail make all of their registrations. -/
theorem applyAll_of_forall (hds : ∀ x ∈ ds, x.refusal? = none) (rs : Registries) :
    (applyAll scope rs ds).failure = none ∧
      (applyAll scope rs ds).registries = rs.registered scope (ds.filterMap registration?) := by
  obtain ⟨events, happly⟩ := applyAll_append scope hds [] rs
  rw [List.append_nil] at happly
  rw [happly]
  exact ⟨rfl, rfl⟩

/-- **Directives make the registrations up to the failure, and no others.** -/
theorem StopsAt.applyAll_eq {made : List (String × Value)} {reason : String}
    (h : StopsAt ds made reason) (rs : Registries) :
    (applyAll scope rs ds).failure = some reason ∧
      (applyAll scope rs ds).registries = rs.registered scope made := by
  obtain ⟨front, d, back, rfl, hfront, rfl, hd⟩ := h
  obtain ⟨events, happly⟩ := applyAll_append scope hfront (d :: back) rs
  rw [happly, applyAll, apply_of_refusal? scope hd]
  exact ⟨rfl, rfl⟩

/-- Directives fail at none of them or at a first one. -/
theorem forall_or_stopsAt (ds : List Directive) :
    (∀ x ∈ ds, x.refusal? = none) ∨ ∃ made reason, StopsAt ds made reason := by
  induction ds with
  | nil => exact .inl fun x hx => absurd hx List.not_mem_nil
  | cons d ds ih =>
    cases hd : d.refusal? with
    | some reason =>
      exact .inr ⟨[], reason, [], d, ds, rfl, fun x hx => absurd hx List.not_mem_nil, rfl, hd⟩
    | none =>
      rcases ih with hds | ⟨made, reason, front, d', back, rfl, hfront, rfl, hd'⟩
      · exact .inl (List.forall_mem_cons.2 ⟨hd, hds⟩)
      · exact .inr ⟨_, reason, d :: front, d', back, rfl, List.forall_mem_cons.2 ⟨hd, hfront⟩, rfl,
          hd'⟩

end Directive

/-! ### Modules -/

namespace RegistryModule

/-- A module fails after some registrations that it makes at once, and some that its hook makes: the
hook makes none if the module fails before. -/
inductive StopsAt (m : RegistryModule) :
    (atOnce hooked : List (String × Value)) → (reason : String) → Prop
  | onLoad {made : List (String × Value)} {reason : String} :
    Directive.StopsAt m.onLoad made reason → StopsAt m made [] reason
  | hook {made : List (String × Value)} {reason : String} :
    (∀ x ∈ m.onLoad, x.refusal? = none) → Directive.StopsAt m.hook made reason →
    StopsAt m (m.onLoad.filterMap Directive.registration?) made reason

variable {m : RegistryModule} {atOnce hooked : List (String × Value)} {reason : String}

/-- **A module makes the registrations up to its failure, and no others.** -/
theorem StopsAt.load_eq (h : m.StopsAt atOnce hooked reason) (scope : Scope) (rs : Registries) :
    (m.load scope rs).failure = some reason ∧
      (m.load scope rs).registries =
        (rs.registered .shared atOnce).registered scope hooked := by
  unfold load
  cases h with
  | onLoad h =>
    obtain ⟨hfailure, hregistries⟩ := h.applyAll_eq .shared rs
    simp only [hfailure, hregistries, Registries.registered_nil, and_self]
  | hook honLoad h =>
    obtain ⟨hfailure, hregistries⟩ := Directive.applyAll_of_forall .shared honLoad rs
    simp only [hfailure, hregistries]
    exact h.applyAll_eq scope _

/-- A module that fails does so at one of its registrations. -/
theorem exists_stopsAt_iff (scope : Scope) (rs : Registries) :
    (∃ reason, (m.load scope rs).failure = some reason) ↔
      ∃ atOnce hooked reason, m.StopsAt atOnce hooked reason := by
  constructor
  · rintro ⟨reason, hfailure⟩
    rcases Directive.forall_or_stopsAt m.onLoad with honLoad | ⟨made, reason, h⟩
    · rcases Directive.forall_or_stopsAt m.hook with hhook | ⟨made, reason, h⟩
      · obtain ⟨hfirst, -⟩ := Directive.applyAll_of_forall .shared honLoad rs
        rw [load] at hfailure
        simp only [hfirst, (Directive.applyAll_of_forall scope hhook _).1] at hfailure
        cases hfailure
      · exact ⟨_, made, reason, .hook honLoad h⟩
    · exact ⟨made, [], reason, .onLoad h⟩
  · rintro ⟨atOnce, hooked, reason, h⟩
    exact ⟨reason, (h.load_eq scope rs).1⟩

end RegistryModule

/-! ### Loading -/

/-- There is a registry module at the path, at a resolved location, and this is it. -/
structure Disk.HasModule (d : Disk) (path : String) (l : Location) (m : RegistryModule) : Prop where
  resolved : (Location.ofText path).resolve = .ok l
  short : d.isTooLong (d.absoluteText l) l = false
  found : d.find? l = some (.registryModule m)
  named : l.suffix = ".py" ∨ l.name = ".py"

namespace Disk

variable {d : Disk} {path : String} {l : Location} {m : RegistryModule}

theorem HasModule.loadModule_eq (h : d.HasModule path l m) (scope : Scope) (rs : Registries) :
    d.loadModule path scope rs =
      loadModule.finish scope l (d.absoluteText l) (m.load scope rs) := by
  have hnamed : (l.suffix != ".py" && l.name != ".py") = false := by
    rcases h.named with hsuffix | hname
    · rw [hsuffix]; rfl
    · rw [hname, Bool.and_comm]; rfl
  rw [loadModule]
  simp only [h.resolved, h.short, h.found, loadModule.loadNode, hnamed, Bool.false_eq_true,
    if_false]

theorem HasModule.importModule_of_failure (h : d.HasModule path l m) {scope : Scope}
    {rs : Registries} {reason : String} (hfailure : (m.load scope rs).failure = some reason)
    (table : ModuleTable) :
    d.importModule path scope rs table =
      ((.error (.moduleFailed (d.absoluteText l) reason), (m.load scope rs).registries,
        (m.load scope rs).events),
        Entries.erase (· == ·) (Entries.put (· == ·) table l.stem l) l.stem) := by
  simp only [importModule, h.loadModule_eq, h.resolved, loadModule.finish, hfailure]

theorem HasModule.importModule_of_success (h : d.HasModule path l m) {scope : Scope}
    {rs : Registries} (hfailure : (m.load scope rs).failure = none) (table : ModuleTable) :
    (d.importModule path scope rs table).1.1 = .ok () := by
  simp only [importModule, h.loadModule_eq, h.resolved, loadModule.finish, hfailure]

/-- Of the table, nothing is left under the name of a module that was entered and taken out again,
and nothing else is changed. -/
theorem get?_erase_put (table : ModuleTable) (stem : String) (l : Location) (name : String) :
    Entries.get? (· == ·) (Entries.erase (· == ·) (Entries.put (· == ·) table stem l) stem) name =
      if name = stem then none else Entries.get? (· == ·) table name := by
  split
  · next hname => rw [hname, Entries.get?_erase_self]
  · next hname => rw [Entries.get?_erase_of_ne _ _ hname, Entries.get?_put_of_ne _ _ _ hname]

/-- **What was registered before the failure remains.**  Loading a registry module fails if and only
if one of its directives does.  Then the error says so, nothing is in the table under the name of
the module, and the registries have the registrations that were made up to there, each of them
written in its turn, and no others. -/
theorem failing_import_keeps_registrations (h : d.HasModule path l m) (scope : Scope)
    (rs : Registries) (table : ModuleTable) :
    ((∃ e, (d.importModule path scope rs table).1.1 = .error e) ↔
        ∃ atOnce hooked reason, m.StopsAt atOnce hooked reason) ∧
      ∀ atOnce hooked reason, m.StopsAt atOnce hooked reason →
        ∃ rs' events table',
          d.importModule path scope rs table =
            ((.error (.moduleFailed (d.absoluteText l) reason), rs', events), table') ∧
          (Error.moduleFailed (d.absoluteText l) reason).kind = .input ∧
          (∀ name, Entries.get? (· == ·) table' name =
            if name = l.stem then none else Entries.get? (· == ·) table name) ∧
          rs' = (rs.registered .shared atOnce).registered scope hooked ∧
          ∀ s, (rs'.get s).entries = Entries.putAll (· == ·) (rs.get s).entries
            ((if s = .shared then atOnce else []) ++ if s = scope then hooked else []) := by
  refine ⟨?_, fun atOnce hooked reason hstop => ?_⟩
  · rw [← RegistryModule.exists_stopsAt_iff scope rs]
    cases hfailure : (m.load scope rs).failure with
    | none => simp [h.importModule_of_success hfailure]
    | some reason => simp [h.importModule_of_failure hfailure]
  · obtain ⟨hfailure, hregistries⟩ := hstop.load_eq scope rs
    refine ⟨_, _, _, h.importModule_of_failure hfailure table, rfl, get?_erase_put table l.stem l,
      hregistries, fun s => ?_⟩
    rw [hregistries, Registries.get_registered, Registries.get_registered, ← Entries.putAll_append]

/-- A function. -/
def plainTarget (name : String) : Value := .target ⟨name, .function name⟩ []

/-- A module whose hook fails after a registration. -/
def lateModule : RegistryModule :=
  { hook := [.register "echo" (plainTarget "echo"), .fail "'late'"] }

/-- A disk with that module. -/
def lateDisk : Disk := { root := "/w", nodes := [(⟨0, ["m.py"]⟩, .registryModule lateModule)] }

/-- **A failing module can leave a trace.**  The registry is empty before, and afterwards it has the
registration that was made in time. -/
theorem failing_import_leaves_trace :
    lateDisk.HasModule "m.py" ⟨0, ["m.py"]⟩ lateModule ∧
      (lateDisk.importModule "m.py" .own {} []).1.1 =
        .error (.moduleFailed "/w/m.py" "'late'") ∧
      (lateDisk.importModule "m.py" .own {} []).1.2.1.own.names = ["echo"] ∧
      ({} : Registries).own.names = [] := by
  have hmodule : lateDisk.HasModule "m.py" ⟨0, ["m.py"]⟩ lateModule :=
    ⟨by rfl, by decide, by rfl, .inl (by decide)⟩
  have hfailure : (lateModule.load .own {}).failure = some "'late'" := by rfl
  have hshown : lateDisk.absoluteText ⟨0, ["m.py"]⟩ = "/w/m.py" := by decide
  rw [hmodule.importModule_of_failure hfailure, hshown]
  exact ⟨hmodule, rfl, rfl, rfl⟩

/-- A module that replaces a name, and whose hook replaces another one, adds a third and then fails,
as what it registers next cannot be called. -/
def replacingModule : RegistryModule :=
  { onLoad := [.register "a" (plainTarget "f")]
    hook := [.register "b" (plainTarget "g"), .register "c" (plainTarget "f"),
      .register "x" (.int 42), .register "y" (plainTarget "g")] }

/-- The names keep their places, and have their new targets. -/
theorem failing_import_keeps_registrations_of_replacements :
    let disk : Disk := { root := "/w", nodes := [(⟨0, ["m.py"]⟩, .registryModule replacingModule)] }
    let rs : Registries :=
      { own := ⟨[("b", plainTarget "h"), ("d", plainTarget "h")]⟩
        shared := ⟨[("a", plainTarget "h"), ("b", plainTarget "h")]⟩ }
    disk.HasModule "m.py" ⟨0, ["m.py"]⟩ replacingModule ∧
      ∃ rs' events table',
        disk.importModule "m.py" .own rs [("m", ⟨0, ["old", "m.py"]⟩)] =
          ((.error (.moduleFailed "/w/m.py" (Error.notCallable (.int 42) (.text "x")).message), rs',
            events), table') ∧
        Entries.get? (· == ·) table' "m" = none ∧
        rs'.own.entries = [("b", plainTarget "g"), ("d", plainTarget "h"), ("c", plainTarget "f")] ∧
        rs'.shared.entries = [("a", plainTarget "f"), ("b", plainTarget "h")] := by
  intro disk rs
  have hmodule : disk.HasModule "m.py" ⟨0, ["m.py"]⟩ replacingModule :=
    ⟨by rfl, by decide, by rfl, .inl (by decide)⟩
  have hstop : replacingModule.StopsAt [("a", plainTarget "f")]
      [("b", plainTarget "g"), ("c", plainTarget "f")]
      (Error.notCallable (.int 42) (.text "x")).message :=
    .hook (by simp [replacingModule, Directive.refusal?, plainTarget, Value.isCallable])
      ⟨[.register "b" (plainTarget "g"), .register "c" (plainTarget "f")],
        .register "x" (.int 42), [.register "y" (plainTarget "g")], rfl,
        by simp [Directive.refusal?, plainTarget, Value.isCallable], rfl,
        by simp [Directive.refusal?, Value.isCallable]⟩
  have hshown : disk.absoluteText ⟨0, ["m.py"]⟩ = "/w/m.py" := by decide
  have hstem : Location.stem ⟨0, ["m.py"]⟩ = "m" := by decide
  obtain ⟨-, hfails⟩ :=
    failing_import_keeps_registrations hmodule .own rs [("m", ⟨0, ["old", "m.py"]⟩)]
  obtain ⟨rs', events, table', himport, -, htable, -, hentries⟩ := hfails _ _ _ hstop
  rw [hshown] at himport
  refine ⟨hmodule, rs', events, table', himport, ?_, ?_, ?_⟩
  · rw [htable, hstem, if_pos rfl]
  · exact hentries .own
  · exact hentries .shared

end Disk
end KeyCall
