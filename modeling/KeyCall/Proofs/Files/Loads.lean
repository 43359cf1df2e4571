import KeyCall.Files.Disk
import KeyCall.Proofs.Entries.Merging

/-!
# Loading modules one after the other

Each of some registry modules is loaded into what the ones in front of it left, until one fails.
What was registered up to there remains, and so does what was logged.

Modules that are loaded for the shared registry make their registrations in it, at once or in their
hooks.  As every registration writes one name, a name stands in the end for what the last of the
modules that know it registers it with, and other names stand for what they did.

## Main definitions

* `Disk.Loads` — the modules at some paths are loaded.
* `Disk.StopsLoading` — one of them fails.
* `Disk.registrationsAt`, `Disk.registrations` — what the module at a path registers, and what the
  modules at some paths do.
* `Registry.HoldsLast` — of some registrations, the last one of each name counts.

## Main results

* `Disk.loadModules_eq_ok_iff`, `Disk.loadModules_eq_error_iff` — **loading is one or the other.**
* `Disk.Loads.entries_shared` — what loading registers.
* `Disk.Loads.holdsLast` — **the last registration of a name counts.**
-/

namespace KeyCall

/-! ### What loading comes to -/

namespace Disk

/-- The modules at all of the paths are loaded, each into the registries that the ones in front of
it left. -/
inductive Loads (d : Disk) (scope : Scope) :
    Registries → List (Option String) → Registries → List Event → Prop
  | nil (rs : Registries) : Loads d scope rs [] rs []
  | cons {rs rs₁ rs₂ : Registries} {path : String} {paths : List (Option String)}
      {events more : List Event} (first : d.loadModule path scope rs = (.ok (), rs₁, events))
      (rest : Loads d scope rs₁ paths rs₂ more) :
      Loads d scope rs (some path :: paths) rs₂ (events ++ more)

/-- The modules in front of one are loaded, and that one is missing or fails. -/
inductive StopsLoading (d : Disk) (scope : Scope) :
    Registries → List (Option String) → Error → Registries → List Event → Prop
  | missing (rs : Registries) (paths : List (Option String)) :
      StopsLoading d scope rs (none :: paths) .noPath rs []
  | failed {rs rs₁ : Registries} {path : String} {e : Error} {events : List Event}
      (paths : List (Option String))
      (first : d.loadModule path scope rs = (.error e, rs₁, events)) :
      StopsLoading d scope rs (some path :: paths) e rs₁ events
  | later {rs rs₁ rs₂ : Registries} {path : String} {paths : List (Option String)} {e : Error}
      {events more : List Event} (first : d.loadModule path scope rs = (.ok (), rs₁, events))
      (rest : StopsLoading d scope rs₁ paths e rs₂ more) :
      StopsLoading d scope rs (some path :: paths) e rs₂ (events ++ more)

variable {d : Disk} {scope : Scope} {rs rs' : Registries} {paths : List (Option String)} {e : Error}
  {events : List Event}

theorem Loads.loadModules_eq (h : d.Loads scope rs paths rs' events) :
    d.loadModules scope rs paths = (.ok (), rs', events) := by
  induction h with
  | nil rs => rfl
  | cons first rest ih => simp only [loadModules, first, ih]

theorem StopsLoading.loadModules_eq (h : d.StopsLoading scope rs paths e rs' events) :
    d.loadModules scope rs paths = (.error e, rs', events) := by
  induction h with
  | missing rs paths => rfl
  | failed paths first => rw [loadModules, first]
  | later first rest ih => simp only [loadModules, first, ih]

/-- Loading either gets to the end, or it stops at the first module that fails. -/
theorem loads_or_stopsLoading (d : Disk) (scope : Scope) (rs : Registries)
    (paths : List (Option String)) :
    (∃ rs' events, d.Loads scope rs paths rs' events) ∨
      ∃ e rs' events, d.StopsLoading scope rs paths e rs' events := by
  induction paths generalizing rs with
  | nil => exact .inl ⟨rs, [], .nil rs⟩
  | cons path paths ih =>
    cases path with
    | none => exact .inr ⟨_, _, _, .missing rs paths⟩
    | some path =>
      obtain ⟨result, rs₁, events, hfirst⟩ :
          ∃ result rs₁ events, d.loadModule path scope rs = (result, rs₁, events) := ⟨_, _, _, rfl⟩
      cases result with
      | error e => exact .inr ⟨e, rs₁, events, .failed paths hfirst⟩
      | ok =>
        rcases ih rs₁ with ⟨rs₂, more, hrest⟩ | ⟨e, rs₂, more, hrest⟩
        · exact .inl ⟨rs₂, events ++ more, .cons hfirst hrest⟩
        · exact .inr ⟨e, rs₂, events ++ more, .later hfirst hrest⟩

theorem loadModules_eq_ok_iff :
    d.loadModules scope rs paths = (.ok (), rs', events) ↔ d.Loads scope rs paths rs' events := by
  refine ⟨fun h => ?_, Loads.loadModules_eq⟩
  rcases d.loads_or_stopsLoading scope rs paths with ⟨rs₁, made, hloads⟩ | ⟨e, rs₁, made, hstops⟩
  · rw [hloads.loadModules_eq] at h
    cases h
    exact hloads
  · rw [hstops.loadModules_eq] at h
    cases h

theorem loadModules_eq_error_iff :
    d.loadModules scope rs paths = (.error e, rs', events) ↔
      d.StopsLoading scope rs paths e rs' events := by
  refine ⟨fun h => ?_, StopsLoading.loadModules_eq⟩
  rcases d.loads_or_stopsLoading scope rs paths with ⟨rs₁, made, hloads⟩ | ⟨e', rs₁, made, hstops⟩
  · rw [hloads.loadModules_eq] at h
    cases h
  · rw [hstops.loadModules_eq] at h
    cases h
    exact hstops

end Disk

/-! ### What is registered -/

/-- The registration that a directive is, if it is one. -/
def Directive.registration? : Directive → Option (String × Value)
  | .register name value => some (name, value)
  | .fail _ => none

/-- The registrations of a module, at once and in its hook. -/
def RegistryModule.registrations (m : RegistryModule) : List (String × Value) :=
  m.onLoad.filterMap Directive.registration? ++ m.hook.filterMap Directive.registration?

/-- The registrations of what is at a path; other files than registry modules have none. -/
def Disk.registrationsAt (d : Disk) (path : String) : List (String × Value) :=
  match (Location.ofText path).resolve with
  | .error _ => []
  | .ok l =>
    match d.find? l with
    | some (.registryModule m) => m.registrations
    | _ => []

/-- The registrations of what is at some paths, in order. -/
def Disk.registrations (d : Disk) (paths : List (Option String)) : List (String × Value) :=
  (paths.filterMap id).flatMap d.registrationsAt

/-- Once the registrations are made, every name stands for the target of its last one, and a name
without any stands for what it did. -/
structure Registry.HoldsLast (r before : Registry) (made : List (String × Value)) : Prop where
  last : ∀ {name front value back}, made = front ++ (name, value) :: back →
    name ∉ Entries.keys back → r.stored? name = some value
  other : ∀ {name}, name ∉ Entries.keys made → r.stored? name = before.stored? name

namespace Directive

variable {scope : Scope} {rs rs' : Registries} {events : List Event}

/-- A directive that is carried out writes the name that it registers. -/
theorem entries_of_apply {d : Directive} (h : d.apply scope rs = .ok (rs', events)) :
    ∃ e, d.registration? = some e ∧
      (rs'.get scope).entries = Entries.put (· == ·) (rs.get scope).entries e.1 e.2 := by
  cases d with
  | fail reason => cases h
  | register name value =>
    refine ⟨(name, value), rfl, ?_⟩
    rw [apply, Registry.register] at h
    by_cases hcallable : value.isCallable = true
    · rw [if_pos hcallable] at h
      cases h
      rw [Registries.get_set]
      rfl
    · rw [if_neg hcallable] at h
      cases h

/-- Directives that are carried out write the names that they register, one after the other. -/
theorem entries_of_applyAll (ds : List Directive) (rs : Registries)
    (h : (applyAll scope rs ds).failure = none) :
    ((applyAll scope rs ds).registries.get scope).entries =
      Entries.putAll (· == ·) (rs.get scope).entries (ds.filterMap registration?) := by
  induction ds generalizing rs with
  | nil => rfl
  | cons d ds ih =>
    rw [applyAll] at h ⊢
    cases happly : d.apply scope rs with
    | error reason => rw [happly] at h; cases h
    | ok made =>
      obtain ⟨rs₁, events⟩ := made
      obtain ⟨e, he, hentries⟩ := entries_of_apply happly
      rw [happly] at h
      rw [List.filterMap_cons_some he, Entries.putAll_cons, ← hentries]
      exact ih rs₁ h

end Directive

/-- A module that is loaded for the shared registry writes the names that it registers. -/
theorem RegistryModule.entries_of_load (m : RegistryModule) (rs : Registries)
    (h : (m.load .shared rs).failure = none) :
    (m.load .shared rs).registries.shared.entries =
      Entries.putAll (· == ·) rs.shared.entries m.registrations := by
  obtain ⟨first, hfirst⟩ : ∃ first, Directive.applyAll .shared rs m.onLoad = first := ⟨_, rfl⟩
  rw [load] at h ⊢
  simp only [hfirst] at h ⊢
  cases hfailure : first.failure with
  | some reason =>
    simp only [hfailure] at h
    cases h
  | none =>
    simp only [hfailure] at h ⊢
    -- The hook is handed the registry that the module has registered in at once.
    have honLoad : first.registries.shared.entries =
        Entries.putAll (· == ·) rs.shared.entries (m.onLoad.filterMap Directive.registration?) := by
      subst hfirst
      exact Directive.entries_of_applyAll m.onLoad rs hfailure
    have hhook := Directive.entries_of_applyAll m.hook first.registries h
    rw [registrations, Entries.putAll_append, ← honLoad]
    exact hhook

namespace Disk

variable {d : Disk} {rs rs' : Registries} {paths : List (Option String)} {events : List Event}

/-- Loading a module for the shared registry writes the names that are registered at its path. -/
theorem entries_of_loadModule {path : String}
    (h : d.loadModule path .shared rs = (.ok (), rs', events)) :
    rs'.shared.entries = Entries.putAll (· == ·) rs.shared.entries (d.registrationsAt path) := by
  have hfinish : ∀ {l shown} {loaded : Loaded},
      loadModule.finish .shared l shown loaded = (.ok (), rs', events) →
        loaded.failure = none ∧ rs' = loaded.registries := by
    intro l shown loaded hloaded
    rw [loadModule.finish] at hloaded
    cases hfailure : loaded.failure with
    | some reason =>
      rw [hfailure] at hloaded
      cases hloaded
    | none =>
      rw [hfailure] at hloaded
      cases hloaded
      exact ⟨rfl, rfl⟩
  unfold loadModule at h
  unfold registrationsAt
  cases hresolve : (Location.ofText path).resolve with
  | error e =>
    rw [hresolve] at h
    cases h
  | ok l =>
    simp only [hresolve] at h ⊢
    split at h
    · cases h
    · cases hfind : d.find? l with
      | none =>
        simp only [hfind] at h
        cases h
      | some node =>
        simp only [hfind, loadModule.loadNode] at h ⊢
        split at h
        · cases h
        · cases node with
          | directory => cases h
          | file bytes =>
            obtain ⟨-, rfl⟩ := hfinish h
            rfl
          | registryModule m =>
            obtain ⟨hfailure, rfl⟩ := hfinish h
            exact m.entries_of_load rs hfailure

/-- Loading modules for the shared registry writes the names that are registered at their paths, one
after the other. -/
theorem Loads.entries_shared (h : d.Loads .shared rs paths rs' events) :
    rs'.shared.entries = Entries.putAll (· == ·) rs.shared.entries (d.registrations paths) := by
  induction h with
  | nil rs => rfl
  | cons first rest ih =>
    rw [ih, entries_of_loadModule first, ← Entries.putAll_append]
    rfl

/-- **The last registration of a name counts.** -/
theorem Loads.holdsLast (h : d.Loads .shared rs paths rs' events) :
    rs'.shared.HoldsLast rs.shared (d.registrations paths) := by
  have hentries := h.entries_shared
  -- A registration under another name leaves what this one stands for.
  have hapart : ∀ {name : String} {es : List (String × Value)}, name ∉ Entries.keys es → ∀ e ∈ es,
      (e.1 == name) = false ∧ ∀ k : String, (k == e.1) = true → (k == name) = false := by
    intro name es hname e he
    have hne : e.1 ≠ name := fun heq => hname (heq ▸ List.mem_map_of_mem he)
    exact ⟨beq_false_of_ne hne, fun k hk => beq_iff_eq.1 hk ▸ beq_false_of_ne hne⟩
  constructor
  · intro name front value back hsplit hback
    rw [Registry.stored?, hentries, hsplit]
    exact Entries.get?_putAll_last (beq_self_eq_true name) (hapart hback) _ front
  · intro name hname
    rw [Registry.stored?, hentries]
    exact Entries.get?_putAll_apart _ (hapart hname)

end Disk
end KeyCall
