import KeyCall.Kit.Catalogue
import KeyCall.Proofs.Dispatch.SideBySide
import KeyCall.Proofs.Dispatch.Support

/-!
# What an invocation can depend on

Not all that a template says goes into the call that it asks for.  Of a presenter's properties, only
the paths of those that are bound reach the model, and nothing reaches the method, which is called
without arguments.  A value goes into a call only where the placeholder stands.  And the output key
goes into nothing but the record of the call.

Each of these is said of two invocations that differ only in what does not matter: they give the
same result, ask the host for the same calls, and leave it in the same state.

## Main definitions

* `Template.TakesValue` — the placeholder stands for the value somewhere in the template.
* `Dispatcher.SameEffect` — two invocations that cannot be told apart by result, calls and state.
* `Dispatcher.PresenterCalls` — the calls that the dispatch of a presenter can come to.
* `Run.Ensures` — what a run ends in has a property.

## Main results

* `bindModel_eq_foldlM` — binding is writing along the bound paths.
* `Dispatcher.presenterCalls_callsIn` — what a presenter's dispatch calls, however far it gets.
* `Dispatcher.invoke_depends_only` — **what an invocation can depend on.**
-/

namespace KeyCall

/-- The placeholder stands for the value somewhere: as the value of a property that is read, or as a
token of the parameter list. -/
def Template.TakesValue (t : Template) : Prop :=
  match t.invocation with
  | .presenter _ _ => ∃ ps, t.pairs = .ok ps ∧ ∃ p ∈ ps, p.value.toList = placeholder
  | _ => ∃ params, t.params = some params ∧
      ∃ token ∈ Text.pieces ',' params.toList, Text.trim token = placeholder

/-! ### Models and arguments -/

/-- **Binding a model is writing along its bound paths.** -/
theorem bindModel_eq_foldlM (guard : Chain.Guard) (value model : Value) (ps : List Property) :
    bindModel guard value model ps =
      (boundPaths ps).foldlM (fun m path => Chain.extend guard m path value) model := by
  induction ps generalizing model with
  | nil => rfl
  | cons p ps ih =>
    unfold bindModel
    by_cases hp : p.isBound = true
    · have hpaths : boundPaths (p :: ps) = p.name :: boundPaths ps := by
        rw [boundPaths, List.filter_cons_of_pos hp]
        rfl
      rw [if_pos hp, hpaths, List.foldlM_cons]
      exact bind_congr fun model' => ih model'
    · have hpaths : boundPaths (p :: ps) = boundPaths ps := by
        rw [boundPaths, List.filter_cons_of_neg hp]
        rfl
      rw [if_neg hp, hpaths, ih]

/-- Without a placeholder, the arguments are the same for every value. -/
theorem bind_eq_of_not_takesValue {params : Option String}
    (h : ∀ s, params = some s → ∀ token ∈ Text.pieces ',' s.toList, Text.trim token ≠ placeholder)
    (value value' : Value) : Argument.bind params value' = Argument.bind params value := by
  cases params with
  | none => rfl
  | some s =>
    simp only [Argument.bind, Argument.ofChars]
    split
    · rfl
    · refine List.map_congr_left fun token htoken => ?_
      have hne : (Text.trim token == placeholder) = false :=
        beq_false_of_ne (h s rfl token htoken)
      rw [Argument.ofToken, Argument.ofToken, hne]
      rfl

namespace Template

variable {t : Template}

theorem exists_className (h : t.shape = .presenter) :
    ∃ c, t.className = some c ∧ t.invocation.bare = .presenter c "" := by
  obtain ⟨⟨c, hc, hne⟩, ps, hps⟩ := (shape_eq_presenter_iff t).1 h
  have hempty : c.isEmpty = false := by simpa using hne
  refine ⟨c, hc, ?_⟩
  simp only [invocation, hc, hempty, hps]
  rfl

theorem boundModel_of_pairs {ps : List Property} (h : t.pairs = .ok ps) (guard : Chain.Guard)
    (value model : Value) :
    t.boundModel guard value model =
      (boundPaths ps).foldlM (fun m path => Chain.extend guard m path value) model := by
  rw [boundModel, h, ← bindModel_eq_foldlM]
  rfl

theorem not_takesValue_presenter (hs : t.shape = .presenter) (h : ¬ t.TakesValue)
    {ps : List Property} (hps : t.pairs = .ok ps) : boundPaths ps = [] := by
  unfold TakesValue at h
  cases hi : t.invocation with
  | presenter c raw =>
    rw [hi] at h
    have hfree : ps.filter Property.isBound = [] := by
      refine List.filter_eq_nil_iff.2 fun p hp hbound => h ⟨ps, hps, p, hp, ?_⟩
      exact beq_iff_eq.1 hbound
    rw [boundPaths, hfree]
    rfl
  | _ => rw [shape, hi] at hs; cases hs

theorem not_takesValue_call (hs : t.shape ≠ .presenter) (h : ¬ t.TakesValue) :
    ∀ s, t.params = some s → ∀ token ∈ Text.pieces ',' s.toList, Text.trim token ≠ placeholder := by
  unfold TakesValue at h
  intro s hparams token htoken htrim
  cases hi : t.invocation with
  | presenter c raw => exact hs (by rw [shape, hi]; rfl)
  | _ =>
    rw [hi] at h
    exact h ⟨s, hparams, token, htoken, htrim⟩

end Template

/-! ### Two invocations -/

namespace Dispatcher

variable {σ : Type}

/-- The two invocations give the same result, ask for the same calls, and leave the host in the same
state. -/
structure SameEffect (d : Dispatcher σ) (t t' : Template) (value value' : Value)
    (s : Stage σ) : Prop where
  result : ((d.invoke t' value').run s).1 = ((d.invoke t value).run s).1
  state : ((d.invoke t' value').run s).2.state = ((d.invoke t value).run s).2.state
  calls : d.callsIn (·.invoke t' value') s = d.callsIn (·.invoke t value) s

/-- A dispatcher compared with itself, where logs do not count. -/
theorem alikeHosts_self (d : Dispatcher σ) :
    AlikeHosts (· = ·) (fun s s' => s.state = s'.state) d d where
  refl _ := rfl
  naming := rfl
  guard := rfl
  method _ _ := rfl
  call f args := by
    rintro ⟨state, log⟩ ⟨state', log'⟩ rfl
    exact ⟨alikeResults_refl (fun _ => rfl) _, rfl⟩

/-- Templates with the same method, of the same kind, and with the same arguments or models have the
same effect. -/
theorem sameEffect_of_call {d : Dispatcher σ} {t t' : Template} {value value' : Value}
    (hmethod : t'.method = t.method) (hbare : t'.invocation.bare = t.invocation.bare)
    (hargs : t.shape ≠ .presenter → Argument.bind t'.params value' = Argument.bind t.params value)
    (hmodel : t.shape = .presenter → ∀ model,
      t'.boundModel d.host.guard value' model = t.boundModel d.host.guard value model)
    (s : Stage σ) : d.SameEffect t t' value value' s := by
  -- The comparison is made twice, the second time with a host that notes its calls.
  have hcall : ∀ {τ : Type} (d' : Dispatcher τ), d'.host.guard = d.host.guard →
      SameCall (· = ·) (fun s s' => s.state = s'.state) d' d' t t' value value' := by
    intro τ d' hguard
    refine ⟨fun _ _ _ => alikeResults_refl (fun _ => rfl) _, hmethod, hbare, hargs, ?_,
      fun _ _ _ hs => hs⟩
    rw [hguard]
    exact hmodel
  obtain ⟨hresult, hstate⟩ := d.alikeHosts_self.invoke (hcall d rfl) s s rfl
  obtain ⟨-, hnoted⟩ := d.noting.alikeHosts_self.invoke (hcall d.noting rfl) (s.withCalls [])
    (s.withCalls []) rfl
  exact ⟨(alikeResults_eq_iff.1 hresult).symm, hstate.symm, (congrArg Prod.snd hnoted).symm⟩

/-! ### The calls of a presenter -/

/-- There is a presenter's class for a model: the class of the model answered without arguments, the
value could be written onto the answer along the paths, and the presenting class is there. -/
structure Presents (d : Dispatcher σ) (className method : String) (paths : List String)
    (value : Value) (st : σ) (c model bound p : Value) : Prop where
  found : d.registry.get? className = some c
  answered : (d.host.call c [] st).1 = .ok model
  written : paths.foldlM (fun m path => Chain.extend d.host.guard m path value) model = .ok bound
  presenting : d.registry.get? (d.naming.presenterOf className method) = some p

/-- The calls that the dispatch of a presenter can come to, in order: the class of the model without
arguments, the presenting class with the model, and the method without arguments.  The model is what
the class answered, with the value written along the given paths.  Fewer calls are made only where
the one before failed, or what comes in front of the next one. -/
inductive PresenterCalls (d : Dispatcher σ) (className method : String) (paths : List String)
    (value : Value) (st : σ) : Calls → Prop
  /-- There is no such class. -/
  | noClass : d.registry.get? className = none →
    PresenterCalls d className method paths value st []
  /-- The class gives no model. -/
  | noModel {c : Value} {e : Error} : d.registry.get? className = some c →
    (d.host.call c [] st).1 = .error e →
    PresenterCalls d className method paths value st [(c, [])]
  /-- The value cannot be written onto the model. -/
  | unwritten {c model : Value} {e : Error} : d.registry.get? className = some c →
    (d.host.call c [] st).1 = .ok model →
    paths.foldlM (fun m path => Chain.extend d.host.guard m path value) model = .error e →
    PresenterCalls d className method paths value st [(c, [])]
  /-- There is no presenting class. -/
  | notPresented {c model bound : Value} : d.registry.get? className = some c →
    (d.host.call c [] st).1 = .ok model →
    paths.foldlM (fun m path => Chain.extend d.host.guard m path value) model = .ok bound →
    d.registry.get? (d.naming.presenterOf className method) = none →
    PresenterCalls d className method paths value st [(c, [])]
  /-- The presenting class gives no presenter. -/
  | noPresenter {c model bound p : Value} {e : Error} :
    d.Presents className method paths value st c model bound p →
    (d.host.call p [bound] (d.host.call c [] st).2).1 = .error e →
    PresenterCalls d className method paths value st [(c, []), (p, [bound])]
  /-- The presenter has no such method. -/
  | noMethod {c model bound p presenter : Value} {e : Error} :
    d.Presents className method paths value st c model bound p →
    (d.host.call p [bound] (d.host.call c [] st).2).1 = .ok presenter →
    d.host.resolveMethod presenter method = .error e →
    PresenterCalls d className method paths value st [(c, []), (p, [bound])]
  /-- The method is called. -/
  | method {c model bound p presenter f : Value} :
    d.Presents className method paths value st c model bound p →
    (d.host.call p [bound] (d.host.call c [] st).2).1 = .ok presenter →
    d.host.resolveMethod presenter method = .ok f →
    PresenterCalls d className method paths value st [(c, []), (p, [bound]), (f, [])]

end Dispatcher

namespace Run

variable {σ α β : Type} {Q : Except Error α → Stage σ → Prop}

/-- What the run ends in has the property. -/
def Ensures (r : Run σ α) (s : Stage σ) (Q : Except Error α → Stage σ → Prop) : Prop :=
  Q (r.run s).1 (r.run s).2

theorem ensures_lift_bind {x : Except Error β} {f : β → Run σ α} {s : Stage σ}
    (herror : ∀ e, x = .error e → Q (.error e) s) (hok : ∀ b, x = .ok b → (f b).Ensures s Q) :
    (lift x >>= f).Ensures s Q := by
  cases x with
  | error e => exact herror e rfl
  | ok b => exact hok b rfl

/-- A call is noted whether it is answered or fails. -/
theorem ensures_noting_bind {Q : Except Error α → Stage (σ × Calls) → Prop} {h : Host σ}
    {g : Value} {args : List Value} {f : Value → Run (σ × Calls) α} {s : Stage σ} {calls : Calls}
    (herror : ∀ e st, h.call g args s.state = (.error e, st) →
      Q (.error e) ((⟨st, s.log⟩ : Stage σ).withCalls (calls ++ [(g, args)])))
    (hok : ∀ v st, h.call g args s.state = (.ok v, st) →
      (f v).Ensures ((⟨st, s.log⟩ : Stage σ).withCalls (calls ++ [(g, args)])) Q) :
    (call h.noting g args >>= f).Ensures (s.withCalls calls) Q := by
  have hrun : (call h.noting g args).run (s.withCalls calls) =
      ((h.call g args s.state).1,
        (⟨(h.call g args s.state).2, s.log⟩ : Stage σ).withCalls (calls ++ [(g, args)])) := rfl
  unfold Ensures
  rw [run_bind, hrun]
  rcases hc : h.call g args s.state with ⟨e | v, st⟩
  · exact herror e st hc
  · exact hok v st hc

end Run

namespace Dispatcher

variable {σ : Type}

/-- What the dispatch of a presenter calls, however far it gets. -/
theorem presenterCalls_callsIn (d : Dispatcher σ) {t : Template} {className : String}
    {ps : List Property} (hclass : t.invocation.bare = .presenter className "")
    (hps : t.pairs = .ok ps) (value : Value) (s : Stage σ) :
    d.PresenterCalls className t.method (boundPaths ps) value s.state
      (d.callsIn (·.invoke t value) s) := by
  have hget : ∀ {role name f}, d.registry.resolve role name = .ok f →
      d.registry.get? name = some f := fun hf => (Registry.resolve_eq_ok_iff _ _ _ _).1 hf
  have hmissing : ∀ {role name e}, d.registry.resolve role name = .error e →
      d.registry.get? name = none := by
    intro role name e he
    cases hf : d.registry.get? name with
    | none => rfl
    | some f =>
      rw [(Registry.resolve_eq_ok_iff _ role _ _).2 hf] at he
      cases he
  show (d.noting.invoke t value).Ensures (s.withCalls []) fun _ s' =>
    d.PresenterCalls className t.method (boundPaths ps) value s.state s'.state.2
  rw [invoke_eq_bare, hclass]
  simp only [callPresenter, Run.lift_bind_lift]
  refine Run.ensures_lift_bind (fun e he => .noClass (hmissing he)) fun c hc => ?_
  refine Run.ensures_noting_bind (fun e st hfails => ?_) fun model st hmodel => ?_
  · exact .noModel (hget hc) (e := e) (by rw [hfails])
  have hanswer : (d.host.call c [] s.state).1 = .ok model := by rw [hmodel]
  have hstate : (d.host.call c [] s.state).2 = st := by rw [hmodel]
  change (Run.lift (t.boundModel d.host.guard value model) >>= _).Ensures _ _
  rw [Template.boundModel_of_pairs hps]
  refine Run.ensures_lift_bind (fun e he => .unwritten (hget hc) hanswer he) fun bound hbound => ?_
  refine Run.ensures_lift_bind (fun e he => ?_) fun p hp => ?_
  · exact .notPresented (hget hc) hanswer hbound (hmissing he)
  have hpresents : d.Presents className t.method (boundPaths ps) value s.state c model bound p :=
    ⟨hget hc, hanswer, hbound, hget hp⟩
  refine Run.ensures_noting_bind (fun e st' hfails => ?_) fun presenter st' hpresenter => ?_
  · exact .noPresenter hpresents (e := e) (by rw [hstate]; exact congrArg Prod.fst hfails)
  have hpresenter : (d.host.call p [bound] (d.host.call c [] s.state).2).1 = .ok presenter := by
    rw [hstate]
    exact congrArg Prod.fst hpresenter
  refine Run.ensures_lift_bind (fun e he => ?_) fun f hf => ?_
  · exact .noMethod hpresents hpresenter he
  · exact .method hpresents hpresenter hf

/-! ### What an invocation can depend on -/

/-- **What an invocation can depend on.**  Of two presenters' templates of one class and method, the
paths of the bound properties alone decide about the effect; they decide which model the presenting
class is called with, and the method is called without arguments.  A template without a placeholder
comes to the same run for all values.  The output key has no effect. -/
theorem invoke_depends_only (d : Dispatcher σ) (s : Stage σ) :
    (∀ (t t' : Template) (ps ps' : List Property) (value : Value),
        t.shape = .presenter → t'.shape = .presenter → t'.className = t.className →
        t'.method = t.method → t.pairs = .ok ps → t'.pairs = .ok ps' →
        boundPaths ps' = boundPaths ps →
        d.SameEffect t t' value value s ∧
          ∃ className, t.className = some className ∧
            d.PresenterCalls className t.method (boundPaths ps) value s.state
              (d.callsIn (·.invoke t value) s)) ∧
      (∀ (t : Template) (value value' : Value), ¬ t.TakesValue →
        d.SameEffect t t value value' s ∧ d.invoke t value' = d.invoke t value) ∧
      ∀ (t : Template) (outkey : String) (value : Value),
        d.SameEffect t { t with outkey } value value s := by
  refine ⟨fun t t' ps ps' value ht ht' hclass hmethod hps hps' hpaths => ?_,
    fun t value value' hfree => ?_, fun t outkey value => ?_⟩
  · obtain ⟨c, hc, hbare⟩ := Template.exists_className ht
    obtain ⟨c', hc', hbare'⟩ := Template.exists_className ht'
    have hsame : c' = c := Option.some.inj (hc'.symm.trans (hclass.trans hc))
    refine ⟨sameEffect_of_call hmethod (by rw [hbare, hbare', hsame]) (fun h => absurd ht h) ?_ s,
      c, hc, d.presenterCalls_callsIn hbare hps value s⟩
    intro _ model
    rw [Template.boundModel_of_pairs hps, Template.boundModel_of_pairs hps', hpaths]
  · have hargs : t.shape ≠ .presenter →
        Argument.bind t.params value' = Argument.bind t.params value := fun hs =>
      bind_eq_of_not_takesValue (Template.not_takesValue_call hs hfree) value value'
    have hmodel : t.shape = .presenter → ∀ model,
        t.boundModel d.host.guard value' model = t.boundModel d.host.guard value model := by
      intro hs model
      cases hps : t.pairs with
      | error e => rw [Template.boundModel, Template.boundModel, hps]; rfl
      | ok ps =>
        rw [Template.boundModel_of_pairs hps, Template.boundModel_of_pairs hps,
          Template.not_takesValue_presenter hs hfree hps]
        rfl
    refine ⟨sameEffect_of_call rfl rfl hargs hmodel s, Run.ext fun s' => ?_⟩
    have hsame : SameCall (· = ·) (· = ·) d d t t value value' :=
      ⟨fun _ _ _ => alikeResults_refl (fun _ => rfl) _, rfl, rfl, hargs, hmodel,
        fun _ _ _ => congrArg (Stage.logging · _)⟩
    have halike := (alikeHosts_of_host (fun _ => rfl) rfl rfl).invoke hsame s' s' rfl
    exact Prod.ext (alikeResults_eq_iff.1 halike.1).symm halike.2.symm
  · have hmethod : ({ t with outkey } : Template).method = t.method := rfl
    exact sameEffect_of_call hmethod rfl (fun _ => rfl) (fun _ _ => rfl) s

/-- The literal property of the second template has no path for a name, and its parameters are
others.  In the third template there is no token that is the placeholder. -/
theorem invoke_depends_only_of_kit :
    let d : Dispatcher Kit.State := ⟨Kit.host, ⟨Kit.targets⟩, {}⟩
    let s : Stage Kit.State := ⟨{}, []⟩
    let t : Template :=
      { method := "presentUrl", outkey := "a", className := some "Car"
        properties := some "name: ?, kind: car", params := some "x" }
    let t' : Template :=
      { method := "presentUrl", outkey := "b", className := some "Car"
        properties := some "x..y: literal, name: ?" }
    let u : Template := { method := "echo", outkey := "a", params := some "a?, ??" }
    let fiat : Value := .text "Fiat"
    boundPaths [⟨"x..y", "literal"⟩, ⟨"name", "?"⟩] = ["name"] ∧ d.SameEffect t t' fiat fiat s ∧
      ¬ u.TakesValue ∧ d.invoke u (.int 1) = d.invoke u fiat := by
  intro d s t t' u fiat
  have hps : t.pairs = .ok [⟨"name", "?"⟩, ⟨"kind", "car"⟩] := by rfl
  have hps' : t'.pairs = .ok [⟨"x..y", "literal"⟩, ⟨"name", "?"⟩] := by rfl
  have hfree : ¬ u.TakesValue := by
    rintro ⟨params, hparams, token, htoken, htrim⟩
    cases hparams
    have hne : ∀ token ∈ Text.pieces ',' "a?, ??".toList, Text.trim token ≠ placeholder := by decide
    exact hne token htoken htrim
  obtain ⟨hpresenter, hvalue, -⟩ := invoke_depends_only d s
  have heffect := (hpresenter t t' _ _ fiat rfl rfl rfl rfl hps hps' (by decide)).1
  exact ⟨by decide, heffect, hfree, (hvalue u fiat (.int 1) hfree).2⟩

end Dispatcher
end KeyCall
