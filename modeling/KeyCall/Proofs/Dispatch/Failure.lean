import KeyCall.Dispatch
import KeyCall.Proofs.Chain.Writing

/-!
# What a dispatch can fail with

The errors of a dispatch come from four places: the names in the template, its property list, the
paths in that list, and the targets.  The first three each have a kind of their own.  So if the
targets never raise an error of such a kind themselves, then an error of that kind says where it
comes from.

## Main definitions

* `failure?` — the error that a result is.
* `Run.FailsOnly` — whatever a run fails with has a property.
* `Dispatcher.Reaches` — what a dispatcher can come to call.
* `Dispatcher.TargetsNeverRaise` — the errors of the targets themselves are never of a kind.

## Main results

* `bindModel_error` — **why a model cannot be bound.**
* `Dispatcher.invoke_failsOnly` — a template whose property list can be read is never refused as
  unreadable.
-/

namespace KeyCall

/-! ### Runs -/

/-- The error that a result is, if it is one. -/
def failure? {α : Type} : Except Error α → Option Error
  | .ok _ => none
  | .error e => some e

theorem failure?_eq_none_iff {α : Type} {x : Except Error α} :
    failure? x = none ↔ ∃ a, x = .ok a := by
  cases x with
  | ok a => exact iff_of_true rfl ⟨a, rfl⟩
  | error e => exact iff_of_false nofun nofun

theorem failure?_eq_some_iff {α : Type} {x : Except Error α} {e : Error} :
    failure? x = some e ↔ x = .error e := by
  cases x with
  | ok a => exact iff_of_false nofun nofun
  | error e' => exact ⟨fun h => congrArg Except.error (Option.some.inj h),
      fun h => congrArg some (Except.error.inj h)⟩

namespace Run

variable {σ α β : Type} {P : Error → Prop}

/-- A step that cannot fail hands its value on. -/
theorem lift_ok_bind (a : α) (f : α → Run σ β) : lift (.ok a) >>= f = f a := rfl

/-- Whatever the run fails with, on whatever stage, has the property. -/
def FailsOnly (P : Error → Prop) (r : Run σ α) : Prop := ∀ s e, (r.run s).1 = .error e → P e

/-- Of what follows a run, only what follows a value that the run can give matters. -/
theorem FailsOnly.bind {r : Run σ α} {f : α → Run σ β} (hr : FailsOnly P r)
    (hf : ∀ a s, (r.run s).1 = .ok a → FailsOnly P (f a)) : FailsOnly P (r >>= f) := by
  intro s e h
  rw [run_bind] at h
  rcases hs : r.run s with ⟨e' | a, s'⟩
  · rw [hs] at h
    cases h
    exact hr s e (congrArg Prod.fst hs)
  · rw [hs] at h
    exact hf a s (congrArg Prod.fst hs) s' e h

theorem failsOnly_record (ev : Event) : FailsOnly P (record ev : Run σ Unit) := by
  intro s e h
  cases h

theorem failsOnly_lift {x : Except Error α} (hx : ∀ e, x = .error e → P e) :
    FailsOnly P (lift x : Run σ α) :=
  fun _ e h => hx e h

theorem FailsOnly.lift_bind {x : Except Error α} {f : α → Run σ β}
    (hx : ∀ e, x = .error e → P e) (hf : ∀ a, x = .ok a → FailsOnly P (f a)) :
    FailsOnly P (lift x >>= f) :=
  (failsOnly_lift hx).bind fun a _ ha => hf a ha

theorem FailsOnly.record_bind {ev : Event} {r : Run σ α} (hr : FailsOnly P r) :
    FailsOnly P (do record ev; r) :=
  (failsOnly_record ev).bind fun _ _ _ => hr

end Run

/-! ### Look-up -/

theorem Registry.resolve_error {r : Registry} {role name : String} {e : Error}
    (h : r.resolve role name = .error e) : e = .unknownName role name r.names := by
  unfold Registry.resolve at h
  split at h
  · cases h
  · exact (Except.error.inj h).symm

theorem Host.resolveMethod_error {σ : Type} {h : Host σ} {owner : Value} {method : String}
    {e : Error} (he : h.resolveMethod owner method = .error e) :
    e = .noMethod owner.ownerName method := by
  unfold Host.resolveMethod at he
  split at he
  · split at he
    · cases he
    · exact (Except.error.inj he).symm
  · exact (Except.error.inj he).symm

/-! ### Models -/

/-- **A model cannot be bound because a bound name is no path, because an attribute cannot be set,
or because its class refuses one.** -/
theorem bindModel_error {guard : Chain.Guard} {value model : Value} {ps : List Property} {e : Error}
    (h : bindModel guard value model ps = .error e) :
    (∃ p ∈ ps, p.isBound = true ∧ e = .badPath p.name) ∨
      (∃ holder name, e = .noAttribute holder name) ∨
      ∃ c name, model.guardedBy? = some c ∧ guard c name = some e := by
  induction ps generalizing model with
  | nil => cases h
  | cons p ps ih =>
    unfold bindModel at h
    by_cases hp : p.isBound = true
    · rw [if_pos hp] at h
      cases hx : Chain.extend guard model p.name value with
      | error e' =>
        rw [hx] at h
        cases h
        exact (Chain.extend_error hx).imp (fun he => ⟨p, List.mem_cons_self, hp, he⟩) id
      | ok model' =>
        rw [hx] at h
        have hrest := ih h
        -- The rest is bound onto a model of the same class.
        rw [Chain.guardedBy?_of_extend hx] at hrest
        exact hrest.imp (fun ⟨q, hq, he⟩ => ⟨q, List.mem_cons_of_mem _ hq, he⟩) id
    · rw [if_neg hp] at h
      exact (ih h).imp (fun ⟨q, hq, he⟩ => ⟨q, List.mem_cons_of_mem _ hq, he⟩) id

/-! ### Dispatch -/

namespace Dispatcher

variable {σ : Type}

/-- What a dispatcher can come to call: a registered target, a method of one, or a method of what
one answers when it is called with a model. -/
inductive Reaches (d : Dispatcher σ) : Value → Prop
  /-- A registered target. -/
  | registered {name : String} {f : Value} : d.registry.get? name = some f → Reaches d f
  /-- A method of a registered target. -/
  | method {name method : String} {c f : Value} :
    d.registry.get? name = some c → d.host.resolveMethod c method = .ok f → Reaches d f
  /-- A method of what presents a model. -/
  | presented {name method : String} {p model presenter f : Value} {st : σ} :
    d.registry.get? name = some p → (d.host.call p [model] st).1 = .ok presenter →
    d.host.resolveMethod presenter method = .ok f → Reaches d f

/-- The errors that the registered targets raise themselves are never of the kind: neither in a
call that a dispatch can make nor where the class of a model refuses a field. -/
structure TargetsNeverRaise (d : Dispatcher σ) (kind : ErrorKind) : Prop where
  /-- No call raises one. -/
  call {f : Value} (args : List Value) (st : σ) (e : Error) :
    d.Reaches f → (d.host.call f args st).1 = .error e → e.kind ≠ kind
  /-- No class of a model refuses a field with one. -/
  guard {name : String} {target model : Value} {st : σ} {c : String} (field : String) (e : Error) :
    d.registry.get? name = some target → (d.host.call target [] st).1 = .ok model →
    model.guardedBy? = some c → d.host.guard c field = some e → e.kind ≠ kind

theorem TargetsNeverRaise.failsOnly_call {d : Dispatcher σ} {kind : ErrorKind}
    (hd : d.TargetsNeverRaise kind) {f : Value} (hf : d.Reaches f) (args : List Value) :
    Run.FailsOnly (·.kind ≠ kind) (Run.call d.host f args) :=
  fun s e he => hd.call args s.state e hf he

/-- If the targets keep to other kinds of error, then a template whose property list can be read is
never refused as unreadable. -/
theorem invoke_failsOnly {d : Dispatcher σ} (hd : d.TargetsNeverRaise .parse) {t : Template}
    {ps : List Property} (hps : t.pairs = .ok ps) (value : Value) :
    Run.FailsOnly (·.kind ≠ .parse) (d.invoke t value) := by
  have hname : ∀ role name e, d.registry.resolve role name = .error e → e.kind ≠ .parse := by
    intro role name e he
    rw [Registry.resolve_error he]
    exact nofun
  have hmethod : ∀ owner e, d.host.resolveMethod owner t.method = .error e → e.kind ≠ .parse := by
    intro owner e he
    rw [Host.resolveMethod_error he]
    exact nofun
  have hget : ∀ {role name f}, d.registry.resolve role name = .ok f →
      d.registry.get? name = some f := fun hf => (Registry.resolve_eq_ok_iff _ _ _ _).1 hf
  unfold invoke
  cases t.invocation with
  | function =>
    refine .lift_bind (hname _ _) fun f hf => .record_bind ?_
    exact hd.failsOnly_call (.registered (hget hf)) _
  | static className =>
    refine .lift_bind (hname _ _) fun c hc => .lift_bind (hmethod c) fun f hf => .record_bind ?_
    exact hd.failsOnly_call (.method (hget hc) hf) _
  | presenter className properties =>
    refine .lift_bind (hname _ _) fun c hc => ?_
    refine (hd.failsOnly_call (.registered (hget hc)) _).bind fun model s hmodel => ?_
    rw [hps, Run.lift_ok_bind]
    refine .lift_bind (fun e he => ?_) fun bound _ => ?_
    · -- A bad path and a missing attribute have kinds of their own; a refusal is the target's.
      rcases bindModel_error he with ⟨p, -, -, rfl⟩ | ⟨holder, name, rfl⟩ | ⟨cls, name, hcls, hg⟩
      · exact nofun
      · exact nofun
      · exact hd.guard name e (hget hc) hmodel hcls hg
    · refine .lift_bind (hname _ _) fun p hp => ?_
      refine (hd.failsOnly_call (.registered (hget hp)) _).bind fun presenter s hpres => ?_
      refine .lift_bind (hmethod presenter) fun f hf => .record_bind ?_
      exact hd.failsOnly_call (.presented (hget hp) hpres hf) _

end Dispatcher
end KeyCall
