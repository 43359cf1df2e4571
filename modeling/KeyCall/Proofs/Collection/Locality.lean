import Mathlib
import KeyCall.Kit.Catalogue
import KeyCall.Proofs.Dispatch.SideBySide
import KeyCall.Session

/-!
# Locality of names

Templates reach what is registered by name and nothing else.  So what processing a collection comes
to depends on a registry only through the names that the templates in the collection mention: the
function of a function template, the class of a static one, the class and the presenting class of a
presenter's.  Two sessions whose own registries agree on these names cannot be told apart, whatever
else is in them and whatever is in the registries shared by all.  The one trace that the rest of a
registry leaves is in the message about a name that it lacks, which lists the names that it has.

## Main definitions

* `SameButRegistered` — the same error, up to that list.
* `AgreeOnNames` — two registries agree on the names in the templates of a collection.

## Main results

* `AgreeOnNames.processCollection` — walks over the collection are alike.
* `Dispatcher.state_processCollection_of_empty` — without any names, nothing is called.
* `Session.processCollection_local` — **what processing comes to depends on the names in the
  templates only.**
-/

namespace KeyCall

/-- The same error, or one about the same unknown name that lists other names as registered. -/
def SameButRegistered (e e' : Error) : Prop :=
  e = e' ∨ ∃ role name registered registered',
    e = .unknownName role name registered ∧ e' = .unknownName role name registered'

theorem sameButRegistered_refl (e : Error) : SameButRegistered e e := Or.inl rfl

/-- The registries agree on every name that the dispatch of a template of the collection looks
up. -/
def AgreeOnNames (naming : Naming) (c : Value) (r r' : Registry) : Prop :=
  ∀ key ∈ templateTexts c.scalarEntries, ∀ t, Template.parse key = .ok t →
    ∀ name ∈ naming.namesOf t, r.get? name = r'.get? name

/-- A name under which both have the same, or both nothing, resolves alike. -/
theorem Registry.alikeResults_resolve {r r' : Registry} {name : String}
    (h : r.get? name = r'.get? name) (role : String) :
    AlikeResults SameButRegistered (r.resolve role name) (r'.resolve role name) := by
  unfold Registry.resolve
  rw [← h]
  cases r.get? name with
  | some target => exact rfl
  | none => exact Or.inr ⟨role, name, r.names, r'.names, rfl, rfl⟩

/-- **With registries that agree on the names in a collection, walks over it are alike.** -/
theorem AgreeOnNames.processCollection {σ : Type} {h : Host σ} {naming : Naming} {c : Value}
    {r r' : Registry} (hagree : AgreeOnNames naming c r r') :
    Run.Alike SameButRegistered (· = ·)
      ((Dispatcher.mk h r naming).processCollection c)
      ((Dispatcher.mk h r' naming).processCollection c) := by
  have hosts : Dispatcher.AlikeHosts SameButRegistered (· = ·) (Dispatcher.mk h r naming)
      (Dispatcher.mk h r' naming) :=
    Dispatcher.alikeHosts_of_host sameButRegistered_refl rfl rfl
  have hS : ∀ (s s' : Stage σ) ev, s = s' → s.logging ev = s'.logging ev :=
    fun _ _ ev hs => congrArg (Stage.logging · ev) hs
  refine Dispatcher.alike_processCollection sameButRegistered_refl hS c ?_
  intro key hkey t ht value
  refine hosts.invoke (Dispatcher.sameCall_self t value hS fun name hname role => ?_)
  exact Registry.alikeResults_resolve (hagree key hkey t ht name hname) role

/-! ### A registry without names -/

namespace Dispatcher

variable {σ : Type}

/-- Without any names, every template is refused at once. -/
theorem invoke_of_empty {d : Dispatcher σ} (hd : d.registry = .empty) (t : Template)
    (value : Value) : ∃ e, d.invoke t value = Run.fail e := by
  have hresolve : ∀ role name,
      d.registry.resolve role name = .error (.unknownName role name []) := by
    intro role name
    rw [hd]
    rfl
  cases hi : t.invocation with
  | function =>
    refine ⟨.unknownName "function" t.method [], ?_⟩
    simp only [invoke, hi, callFunction, Registry.resolveFunction, hresolve]
    rfl
  | static className =>
    refine ⟨.unknownName "class" className [], ?_⟩
    simp only [invoke, hi, callStatic, Registry.resolveClass, hresolve]
    rfl
  | presenter className properties =>
    refine ⟨.unknownName "class" className [], ?_⟩
    simp only [invoke, hi, callPresenter, Registry.resolveClass, hresolve]
    rfl

/-- **Without any names, the host is not asked for anything.** -/
theorem state_processCollection_of_empty {d : Dispatcher σ} (hd : d.registry = .empty) (c : Value)
    (s : Stage σ) : ((d.processCollection c).run s).2.state = s.state := by
  -- The walk is compared with itself, as one that is in this state all the time.
  have halike : Run.Alike (· = ·) (fun s₁ s₂ => s₁.state = s.state ∧ s₂.state = s.state)
      (d.processCollection c) (d.processCollection c) := by
    refine alike_processCollection (fun _ => rfl) (fun _ _ _ hs => hs) c ?_
    intro key _ t _ value
    obtain ⟨e, he⟩ := invoke_of_empty hd t value
    rw [he]
    intro s₁ s₂ hs
    exact ⟨rfl, hs⟩
  exact (halike s s ⟨rfl, rfl⟩).2.1

end Dispatcher

/-! ### Sessions -/

/-- **What processing comes to depends on the names in the templates only.**  Of two sessions whose
own registries agree on these names, both give the same result, up to the names that an error lists
as registered, ask the host for the same calls, and have the same log; and the registries stay as
they are.  If a session's own registry has no names, then nothing is called, whatever is registered
in the shared one. -/
theorem Session.processCollection_local {σ : Type} (h : Host σ) (disk : Disk) (naming : Naming)
    (stage : Stage σ) (c : Value) {own own' : Registry} (shared shared' : Registry)
    (hagree : AgreeOnNames naming c own own') :
    let session (own shared : Registry) : Session σ :=
      { registries := ⟨own, shared⟩, naming, stage }
    let process (own shared : Registry) :=
      (session own shared).perform h disk (.processCollection .own c)
    let calls (own shared : Registry) :=
      ((session own shared).dispatcher h .own).callsIn (·.processCollection c) stage
    AlikeResults SameButRegistered (process own shared).1 (process own' shared').1 ∧
      (process own shared).2.stage = (process own' shared').2.stage ∧
      calls own shared = calls own' shared' ∧
      (process own shared).2.registries = ⟨own, shared⟩ ∧
      (process own' shared').2.registries = ⟨own', shared'⟩ ∧
      ∀ shared, calls .empty shared = [] := by
  intro session process calls
  have halike := hagree.processCollection (h := h) stage stage rfl
  have hnoting := hagree.processCollection (h := h.noting) (stage.withCalls [])
    (stage.withCalls []) rfl
  refine ⟨halike.1.map Reply.value, halike.2, congrArg (·.state.2) hnoting.2, rfl, rfl, ?_⟩
  intro shared
  have hstate := Dispatcher.state_processCollection_of_empty
    (d := (Dispatcher.mk h .empty naming).noting) rfl c (stage.withCalls [])
  exact congrArg Prod.snd hstate

/-- An echo, a car's address, and a name that neither registry has: one registry has just the three
names that are found, the other a whole kit. -/
theorem Session.processCollection_local_of_kit :
    let c : Value := .mapping .plain
      [(.text "$\x7becho(?)\x7d:a", .int 1),
        (.text "cars", .list [.mapping .plain
          [(.text "$\x7bCar(\x7bname: ?\x7d).presentUrl()\x7d:u", .text "Uno")]]),
        (.text "$\x7bnobody()\x7d:x", .null)]
    let few : Registry :=
      ⟨[Kit.classEntry "Car", Kit.classEntry "CarPresenter", Kit.functionEntry "echo"]⟩
    let all : Registry := ⟨Kit.targets⟩
    let process (own shared : Registry) :=
      (Session.mk ⟨own, shared⟩ .own {} ⟨{}, []⟩).perform Kit.host ⟨"", []⟩
        (.processCollection .own c)
    few.size < all.size ∧ AgreeOnNames {} c few all ∧
      AlikeResults SameButRegistered (process few all).1 (process all .empty).1 ∧
      (process few all).2.stage.log = (process all .empty).2.stage.log := by
  intro c few all process
  have hlooked : (templateTexts c.scalarEntries).map
      (fun key => (Template.parse key).map (Naming.namesOf {})) =
      [.ok ["echo"], .ok ["Car", "CarPresenter"], .ok ["nobody"]] := by cbv
  have hagree : AgreeOnNames {} c few all := by
    intro key hkey t ht name hname
    have hmem :=
      List.mem_map_of_mem (f := fun key => (Template.parse key).map (Naming.namesOf {})) hkey
    rw [hlooked, ht] at hmem
    simp only [List.mem_cons, List.not_mem_nil, or_false, Except.map, Except.ok.injEq] at hmem
    rcases hmem with h | h | h <;> rw [h] at hname <;>
      simp only [List.mem_cons, List.not_mem_nil, or_false] at hname
    · rw [hname]
      cbv
    · rcases hname with rfl | rfl <;> cbv
    · rw [hname]
      cbv
  refine ⟨by cbv, hagree, ?_⟩
  -- What is left holds of any registries that agree, so nothing has to be looked up.
  clear_value c few all
  have hlocal := processCollection_local Kit.host ⟨"", []⟩ {} ⟨{}, []⟩ c all .empty hagree
  exact ⟨hlocal.1, congrArg (·.log) hlocal.2.1⟩

end KeyCall
