import KeyCall.Proofs.Dispatch.Failure

/-!
# What a dispatch needs

A dispatcher supports a template if it knows the names in it, the host answers the calls that it
asks for, and the model, where there is one, is open.  One thing is left that can go wrong then: a
property may be bound whose name is no path.  It is found out when the model has been built, and
nothing that comes before looks for it.

## Main definitions

* `badPath?` — the first of some paths that is none.
* `Template.paths` — the paths along which a template's model is written.
* `Dispatcher.Supports` — names and calls are there.

## Main results

* `failure?_bindModel` — binding an open model fails exactly at the first bad path.
* `Dispatcher.failure?_invoke` — **a supported template fails exactly at its first bad path.**
-/

namespace KeyCall

/-- The first of some paths that is none. -/
def badPath? (paths : List String) : Option String :=
  paths.find? fun path => !decide (Chain.IsPath path)

theorem badPath?_eq_none_iff {paths : List String} :
    badPath? paths = none ↔ ∀ path ∈ paths, Chain.IsPath path := by
  simp [badPath?]

theorem badPath?_append (front back : List String) :
    badPath? (front ++ back) = (badPath? front).or (badPath? back) :=
  List.find?_append

/-! ### Models -/

/-- The paths of the properties that are bound. -/
def boundPaths (ps : List Property) : List String := (ps.filter Property.isBound).map Property.name

/-- **Binding an open model fails exactly at the first bad path.** -/
theorem failure?_bindModel {guard : Chain.Guard} {value model : Value} {ps : List Property}
    (hm : model.IsOpen guard) :
    failure? (bindModel guard value model ps) = (badPath? (boundPaths ps)).map Error.badPath := by
  induction ps generalizing model with
  | nil => rfl
  | cons p ps ih =>
    unfold bindModel
    by_cases hb : p.isBound = true
    · have hpaths : boundPaths (p :: ps) = p.name :: boundPaths ps := by
        rw [boundPaths, List.filter_cons_of_pos hb]
        rfl
      rw [if_pos hb, hpaths]
      by_cases hp : Chain.IsPath p.name
      · obtain ⟨model', hx, hopen⟩ := Chain.extend_of_isOpen hm hp value
        rw [hx]
        refine (ih hopen).trans ?_
        rw [badPath?, badPath?, List.find?_cons_of_neg (by simpa using hp)]
      · rw [Chain.extend_of_not_isPath hp, badPath?, List.find?_cons_of_pos (by simpa using hp)]
        rfl
    · have hpaths : boundPaths (p :: ps) = boundPaths ps := by
        rw [boundPaths, List.filter_cons_of_neg hb]
        rfl
      rw [if_neg hb, hpaths]
      exact ih hm

/-! ### Templates -/

/-- The paths along which the model of a template is written; only a presenter has a model. -/
def Template.paths (t : Template) : List String :=
  match t.invocation, t.pairs with
  | .presenter _ _, .ok ps => boundPaths ps
  | _, _ => []

namespace Dispatcher

variable {σ : Type}

/-- The names in the template resolve, and the host answers the calls that are made for it, the
first of them in the given state.  Where there is a model, it is open, and what presents it is asked
for only if it could be bound. -/
def Supports (d : Dispatcher σ) (t : Template) (value : Value) (st : σ) : Prop :=
  match t.invocation with
  | .function =>
    ∃ f, d.registry.get? t.method = some f ∧
      ∃ w, (d.host.call f (Argument.bind t.params value) st).1 = .ok w
  | .static className =>
    ∃ c f, d.registry.get? className = some c ∧ d.host.resolveMethod c t.method = .ok f ∧
      ∃ w, (d.host.call f (Argument.bind t.params value) st).1 = .ok w
  | .presenter className _ =>
    ∃ c model st', d.registry.get? className = some c ∧ d.host.call c [] st = (.ok model, st') ∧
      model.IsOpen d.host.guard ∧
      ∃ p, d.registry.get? (d.naming.presenterOf className t.method) = some p ∧
        ∀ ps bound, t.pairs = .ok ps → bindModel d.host.guard value model ps = .ok bound →
          ∃ presenter st'', d.host.call p [bound] st' = (.ok presenter, st'') ∧
            ∃ f, d.host.resolveMethod presenter t.method = .ok f ∧
              ∃ w, (d.host.call f [] st'').1 = .ok w

/-- A registered name hands its target on. -/
theorem lift_resolve_bind {d : Dispatcher σ} {α : Type} {role name : String} {f : Value}
    (hf : d.registry.get? name = some f) (k : Value → Run σ α) :
    Run.lift (d.registry.resolve role name) >>= k = k f := by
  rw [(Registry.resolve_eq_ok_iff _ role _ _).2 hf, Run.lift_ok_bind]

/-- A call that is answered hands its answer on, in the state that it leaves behind. -/
theorem run_call_bind {h : Host σ} {α : Type} {f v : Value} {args : List Value} {s : Stage σ}
    {st : σ} (hcall : h.call f args s.state = (.ok v, st)) (k : Value → Run σ α) :
    (Run.call h f args >>= k).run s = (k v).run ⟨st, s.log⟩ := by
  rw [Run.run_bind]
  have hrun : (Run.call h f args).run s = (.ok v, ⟨st, s.log⟩) := by
    show ((h.call f args s.state).1, (⟨(h.call f args s.state).2, s.log⟩ : Stage σ)) = _
    rw [hcall]
  rw [hrun]

/-- That the last call is recorded does not change what it answers. -/
theorem failure?_run_record_call {h : Host σ} {ev : Event} {f w : Value} {args : List Value}
    {s : Stage σ} (hcall : (h.call f args s.state).1 = .ok w) :
    failure? ((do Run.record ev; Run.call h f args : Run σ Value).run s).1 = none :=
  failure?_eq_none_iff.2 ⟨w, hcall⟩

/-- **A supported template fails exactly at its first bad path.** -/
theorem failure?_invoke {d : Dispatcher σ} {t : Template} {value : Value} {s : Stage σ}
    {ps : List Property} (hs : d.Supports t value s.state) (hps : t.pairs = .ok ps) :
    failure? ((d.invoke t value).run s).1 = (badPath? t.paths).map Error.badPath := by
  unfold Supports at hs
  unfold invoke Template.paths
  cases hi : t.invocation with
  | function =>
    rw [hi] at hs
    obtain ⟨f, hf, w, hw⟩ := hs
    simp only [callFunction, Registry.resolveFunction]
    rw [lift_resolve_bind hf]
    exact failure?_run_record_call hw
  | static className =>
    rw [hi] at hs
    obtain ⟨c, f, hc, hm, w, hw⟩ := hs
    simp only [callStatic, Registry.resolveClass]
    rw [lift_resolve_bind hc, hm, Run.lift_ok_bind]
    exact failure?_run_record_call hw
  | presenter className properties =>
    rw [hi] at hs
    obtain ⟨c, model, st', hc, hmodel, hopen, p, hp, hrest⟩ := hs
    have hbind : failure? (bindModel d.host.guard value model ps) = _ := failure?_bindModel hopen
    simp only [callPresenter, Registry.resolveClass, hps]
    rw [lift_resolve_bind hc, run_call_bind hmodel, Run.lift_ok_bind]
    -- The model is open, so the only way out before the presenter is a bad path.
    cases hb : bindModel d.host.guard value model ps with
    | error e =>
      rw [hb] at hbind
      exact hbind
    | ok bound =>
      rw [hb] at hbind
      obtain ⟨presenter, st'', hpres, f, hm, w, hw⟩ := hrest ps bound hps hb
      rw [Run.lift_ok_bind, lift_resolve_bind hp, run_call_bind hpres, hm, Run.lift_ok_bind,
        ← hbind]
      exact failure?_run_record_call hw

end Dispatcher
end KeyCall
