import KeyCall.Proofs.Collection.Walk
import KeyCall.Proofs.Dispatch.Failure

/-!
# Two runs side by side

What a run depends on is said by comparing it with a second one.  The two start from stages that
correspond to each other and take the same steps; then they end in stages that correspond, with the
same value or with errors that correspond.  How stages and errors correspond is left open: stages
may be equal, or differ in their logs, or one may carry notes that the other lacks.

The last of these makes the calls of a run something to talk about.  A host can note what it is
asked to call, and noting changes nothing else.

## Main definitions

* `AlikeResults` — the same value, or errors that correspond.
* `Run.Alike` — two runs end alike wherever they start alike.
* `Host.noting`, `Dispatcher.noting` — a host that notes its calls, and a dispatcher with it.
* `Dispatcher.callsIn` — the calls of a run.

## Main results

* `Run.Alike.bind` — runs that take alike steps are alike.
* `Dispatcher.AlikeHosts.invoke` — templates that ask for the same call are dispatched alike.
* `Dispatcher.alike_processCollection` — two walks are alike if their dispatches are.
* `Dispatcher.alike_noting` — **noting the calls of a dispatch changes nothing about it.**
-/

namespace KeyCall

/-- The results are the same value, or errors that correspond. -/
def AlikeResults {α : Type} (E : Error → Error → Prop) : Except Error α → Except Error α → Prop
  | .ok a, .ok b => a = b
  | .error e, .error e' => E e e'
  | _, _ => False

/-- The stage with one more event in its log. -/
def Stage.logging {σ : Type} (s : Stage σ) (ev : Event) : Stage σ :=
  { s with log := s.log ++ [ev] }

section Results

variable {α β : Type} {E : Error → Error → Prop}

theorem alikeResults_refl (hE : ∀ e, E e e) (x : Except Error α) : AlikeResults E x x := by
  cases x with
  | ok a => exact rfl
  | error e => exact hE e

theorem AlikeResults.map {x y : Except Error α} (h : AlikeResults E x y) (f : α → β) :
    AlikeResults E (x.map f) (y.map f) := by
  cases x with
  | ok a => cases y with
    | ok b => exact congrArg f h
    | error e => exact h
  | error e => cases y with
    | ok b => exact h
    | error e' => exact h

theorem alikeResults_eq_iff {x y : Except Error α} : AlikeResults Eq x y ↔ x = y := by
  cases x <;> cases y <;> simp [AlikeResults]

end Results

namespace Run

variable {σ τ α β : Type}

/-- Wherever the two runs start alike, they end alike: with results and on stages that
correspond. -/
def Alike (E : Error → Error → Prop) (S : Stage σ → Stage τ → Prop) (r : Run σ α)
    (r' : Run τ α) : Prop :=
  ∀ s s', S s s' → AlikeResults E (r.run s).1 (r'.run s').1 ∧ S (r.run s).2 (r'.run s').2

variable {E : Error → Error → Prop} {S : Stage σ → Stage τ → Prop}

theorem alike_pure (a : α) : Alike E S (pure a) (pure a) := by
  intro s s' hs
  exact ⟨rfl, hs⟩

/-- After two alike runs that give a value, alike runs may follow. -/
theorem Alike.bind {r : Run σ α} {r' : Run τ α} {f : α → Run σ β} {f' : α → Run τ β}
    (hr : Alike E S r r') (hf : ∀ a, Alike E S (f a) (f' a)) :
    Alike E S (r >>= f) (r' >>= f') := by
  intro s s' hs
  obtain ⟨hresult, hstage⟩ := hr s s' hs
  rw [run_bind, run_bind]
  rcases h : r.run s with ⟨e | a, t⟩ <;> rcases h' : r'.run s' with ⟨e' | a', t'⟩ <;>
    rw [h, h'] at hresult hstage
  case error.error => exact ⟨hresult, hstage⟩
  case ok.ok =>
    cases (show a = a' from hresult)
    exact hf a t t' hstage
  case error.ok => exact hresult.elim
  case ok.error => exact hresult.elim

theorem alike_lift {x y : Except Error α} (h : AlikeResults E x y) :
    Alike E S (lift x) (lift y) := by
  intro s s' hs
  exact ⟨h, hs⟩

/-- Two alike pure steps hand the same value on. -/
theorem Alike.lift_bind {x y : Except Error α} {f : α → Run σ β} {f' : α → Run τ β}
    (h : AlikeResults E x y) (hf : ∀ a, Alike E S (f a) (f' a)) :
    Alike E S (lift x >>= f) (lift y >>= f') :=
  (alike_lift h).bind hf

theorem Alike.record_bind {ev ev' : Event} {r : Run σ α} {r' : Run τ α}
    (hS : ∀ s s', S s s' → S (s.logging ev) (s'.logging ev')) (hr : Alike E S r r') :
    Alike E S (do record ev; r) (do record ev'; r') := by
  intro s s' hs
  exact hr _ _ (hS s s' hs)

/-- Two pure steps in a row are one. -/
theorem lift_bind_lift {γ : Type} (x : Except Error α) (f : α → Except Error β)
    (k : β → Run σ γ) : (lift x >>= fun a => lift (f a) >>= k) = lift (x >>= f) >>= k := by
  cases x <;> rfl

end Run

/-- **Two walks are alike if what they do with their entries is.** -/
theorem alike_walkRelation {σ τ : Type} {E : Error → Error → Prop} {S : Stage σ → Stage τ → Prop}
    (hS : ∀ s s' ev, S s s' → S (s.logging ev) (s'.logging ev)) :
    WalkRelation fun _ _ r r' => Run.Alike E S r r' where
  pure a := Run.alike_pure a
  record ev := fun s s' hs => ⟨rfl, hS s s' ev hs⟩
  bind hr hf := hr.bind hf

/-- What cannot be taken item by item is refused before anything is done. -/
theorem Handler.processCollection_of_not_isIterable {σ : Type} (h : Handler σ) {c : Value}
    (hc : ¬ c.IsIterable) :
    h.processCollection c = Run.fail (.notIterable c.qualifiedTypeName) := by
  obtain ⟨hmapping, hitems⟩ := not_or.1 hc
  have hnone : c.items? = none := by
    cases hi : c.items? with
    | none => rfl
    | some xs => exact absurd ⟨xs, hi⟩ hitems
  rw [processCollection, if_neg hmapping, hnone]

/-! ### What a dispatch depends on -/

/-- An invocation without its property list. -/
def Invocation.bare : Invocation → Invocation
  | .presenter className _ => .presenter className ""
  | i => i

/-- The names that the dispatch of a template looks up. -/
def Naming.namesOf (n : Naming) (t : Template) : List String :=
  match t.invocation with
  | .function => [t.method]
  | .static className => [className]
  | .presenter className _ => [className, n.presenterOf className t.method]

/-- The model with the properties of a template bound onto it. -/
def Template.boundModel (guard : Chain.Guard) (t : Template) (value model : Value) :
    Except Error Value := do
  let pairs ← t.pairs
  bindModel guard value model pairs

namespace Dispatcher

variable {σ τ : Type} {E : Error → Error → Prop} {S : Stage σ → Stage τ → Prop}
  {d : Dispatcher σ} {d' : Dispatcher τ} {t t' : Template} {value value' : Value}

/-- The two dispatchers name presenters alike, and their hosts answer alike. -/
structure AlikeHosts (E : Error → Error → Prop) (S : Stage σ → Stage τ → Prop) (d : Dispatcher σ)
    (d' : Dispatcher τ) : Prop where
  refl : ∀ e, E e e
  naming : d'.naming = d.naming
  guard : d'.host.guard = d.host.guard
  method : ∀ owner name, d'.host.resolveMethod owner name = d.host.resolveMethod owner name
  call : ∀ f args, Run.Alike E S (Run.call d.host f args) (Run.call d'.host f args)

/-- Two templates, each with a value, ask for the same call.  Their names resolve alike, the
arguments are the same or the models are bound alike, and what is recorded, which may differ in the
output key, keeps stages alike. -/
structure SameCall (E : Error → Error → Prop) (S : Stage σ → Stage τ → Prop) (d : Dispatcher σ)
    (d' : Dispatcher τ) (t t' : Template) (value value' : Value) : Prop where
  names : ∀ name ∈ d.naming.namesOf t, ∀ role,
    AlikeResults E (d.registry.resolve role name) (d'.registry.resolve role name)
  method : t'.method = t.method
  invocation : t'.invocation.bare = t.invocation.bare
  arguments : t.shape ≠ .presenter → Argument.bind t'.params value' = Argument.bind t.params value
  model : t.shape = .presenter → ∀ model,
    t'.boundModel d.host.guard value' model = t.boundModel d.host.guard value model
  record : ∀ s s' (ev : String → Event), S s s' →
    S (s.logging (ev t.outkey)) (s'.logging (ev t'.outkey))

/-- The property list decides how a template is called only by being there. -/
theorem invoke_eq_bare (d : Dispatcher σ) (t : Template) (value : Value) :
    d.invoke t value =
      match t.invocation.bare with
      | .function => d.callFunction t value
      | .static className => d.callStatic t className value
      | .presenter className _ => d.callPresenter t className value := by
  unfold invoke
  cases t.invocation <;> rfl

/-- **Templates that ask for the same call are dispatched alike.** -/
theorem AlikeHosts.invoke (hd : AlikeHosts E S d d') (ht : SameCall E S d d' t t' value value') :
    Run.Alike E S (d.invoke t value) (d'.invoke t' value') := by
  have hnames := ht.names
  unfold Naming.namesOf at hnames
  rw [invoke_eq_bare d, invoke_eq_bare d', ht.invocation]
  cases hi : t.invocation with
  | function =>
    rw [hi] at hnames
    have hshape : t.shape ≠ .presenter := by rw [Template.shape, hi]; exact nofun
    simp only [Invocation.bare, callFunction]
    rw [ht.method, ht.arguments hshape]
    refine .lift_bind (hnames _ List.mem_cons_self _) fun f => ?_
    exact .record_bind (fun s s' => ht.record s s' (.callingFunction _ _)) (hd.call f _)
  | static className =>
    rw [hi] at hnames
    have hshape : t.shape ≠ .presenter := by rw [Template.shape, hi]; exact nofun
    simp only [Invocation.bare, callStatic]
    rw [ht.method, ht.arguments hshape]
    refine .lift_bind (hnames _ List.mem_cons_self _) fun c => ?_
    rw [hd.method]
    refine .lift_bind (alikeResults_refl hd.refl _) fun f => ?_
    exact .record_bind (fun s s' => ht.record s s' (.callingStatic _ _ _)) (hd.call f _)
  | presenter className properties =>
    rw [hi] at hnames
    have hshape : t.shape = .presenter := by rw [Template.shape, hi]; rfl
    have hmodel := ht.model hshape
    simp only [Invocation.bare, callPresenter, Run.lift_bind_lift]
    rw [ht.method, hd.guard, hd.naming]
    refine .lift_bind (hnames _ List.mem_cons_self _) fun c => ?_
    refine (hd.call c []).bind fun model => ?_
    change Run.Alike E S (Run.lift (t.boundModel d.host.guard value model) >>= _)
      (Run.lift (t'.boundModel d.host.guard value' model) >>= _)
    rw [hmodel model]
    refine .lift_bind (alikeResults_refl hd.refl _) fun bound => ?_
    refine .lift_bind (hnames _ (List.mem_cons_of_mem _ List.mem_cons_self) _) fun p => ?_
    refine (hd.call p [bound]).bind fun presenter => ?_
    rw [hd.method]
    refine .lift_bind (alikeResults_refl hd.refl _) fun f => ?_
    exact .record_bind (fun s s' => ht.record s s' (.callingPresenter _ _ _)) (hd.call f [])

/-- On one host, dispatchers that name presenters alike take equal stages to equal stages. -/
theorem alikeHosts_of_host (hE : ∀ e, E e e) {d d' : Dispatcher σ} (hhost : d'.host = d.host)
    (hnaming : d'.naming = d.naming) : AlikeHosts E (· = ·) d d' where
  refl := hE
  naming := hnaming
  guard := by rw [hhost]
  method _ _ := by rw [hhost]
  call f args := by
    rw [hhost]
    rintro s _ rfl
    exact ⟨alikeResults_refl hE _, rfl⟩

/-- A template asks for the same call as itself if its names resolve alike. -/
theorem sameCall_self (t : Template) (value : Value)
    (hS : ∀ s s' ev, S s s' → S (s.logging ev) (s'.logging ev))
    (hnames : ∀ name ∈ d.naming.namesOf t, ∀ role,
      AlikeResults E (d.registry.resolve role name) (d'.registry.resolve role name)) :
    SameCall E S d d' t t value value where
  names := hnames
  method := rfl
  invocation := rfl
  arguments _ := rfl
  model _ _ := rfl
  record s s' ev := hS s s' (ev t.outkey)

/-- **Two walks are alike if the dispatches of the templates of the collection are.** -/
theorem alike_processCollection (hE : ∀ e, E e e)
    (hS : ∀ s s' ev, S s s' → S (s.logging ev) (s'.logging ev)) (c : Value)
    (hinvoke : ∀ key ∈ templateTexts c.scalarEntries, ∀ t, Template.parse key = .ok t →
      ∀ value, Run.Alike E S (d.invoke t value) (d'.invoke t value)) :
    Run.Alike E S (d.processCollection c) (d'.processCollection c) := by
  have hentry : ∀ e ∈ c.scalarEntries,
      Run.Alike E S (d.handler.process e.1 e.2) (d'.handler.process e.1 e.2) := by
    rintro ⟨k, v⟩ he
    cases hk : templateText? k with
    | none =>
      have hkey := templateText?_eq_none_iff.1 hk
      rw [Handler.process_of_not_template _ _ hkey, Handler.process_of_not_template _ _ hkey]
      exact Run.alike_pure _
    | some key =>
      obtain ⟨rfl, hkey⟩ := eq_text_of_templateText?_eq_some hk
      have hmem : key ∈ templateTexts c.scalarEntries := by
        refine List.mem_map.2 ⟨(key, v), List.mem_filterMap.2 ⟨_, he, ?_⟩, rfl⟩
        rw [hk, Option.map_some]
      rw [Handler.process_of_template _ _ hkey, Handler.process_of_template _ _ hkey]
      cases hp : Template.parse key with
      | error e => exact Run.alike_lift (hE e)
      | ok t =>
        rw [Run.lift_ok_bind, Run.lift_ok_bind]
        exact (hinvoke key hmem t hp v).bind fun w => Run.alike_pure _
  by_cases hc : c.IsIterable
  · exact (alike_walkRelation hS).processCollection hc hentry
  · rw [Dispatcher.processCollection, Dispatcher.processCollection,
      Handler.processCollection_of_not_isIterable _ hc,
      Handler.processCollection_of_not_isIterable _ hc]
    exact Run.alike_lift (hE _)

end Dispatcher

/-! ### Calls -/

/-- Calls in order, each with its arguments. -/
abbrev Calls := List (Value × List Value)

/-- The host, noting every call that it is asked for with its arguments. -/
def Host.noting {σ : Type} (h : Host σ) : Host (σ × Calls) where
  call f args st :=
    let (answer, st') := h.call f args st.1
    (answer, st', st.2 ++ [(f, args)])
  inherited? := h.inherited?
  guard := h.guard
  describe := h.describe

/-- The stage with calls noted beside the state. -/
def Stage.withCalls {σ : Type} (s : Stage σ) (calls : Calls) : Stage (σ × Calls) :=
  ⟨(s.state, calls), s.log⟩

/-- The stages are the same up to the notes on the second. -/
def Noted {σ : Type} (s : Stage σ) (s' : Stage (σ × Calls)) : Prop :=
  s'.state.1 = s.state ∧ s'.log = s.log

namespace Dispatcher

variable {σ α : Type}

/-- The dispatcher on the host that notes its calls. -/
def noting (d : Dispatcher σ) : Dispatcher (σ × Calls) := ⟨d.host.noting, d.registry, d.naming⟩

/-- The calls that a run of the dispatcher asks the host for, in order. -/
def callsIn (d : Dispatcher σ) (r : Dispatcher (σ × Calls) → Run (σ × Calls) α) (s : Stage σ) :
    Calls :=
  ((r d.noting).run (s.withCalls [])).2.state.2

theorem alikeHosts_noting (d : Dispatcher σ) : AlikeHosts (· = ·) Noted d d.noting where
  refl _ := rfl
  naming := rfl
  guard := rfl
  method _ _ := rfl
  call f args := by
    rintro ⟨state, log⟩ ⟨⟨state', calls⟩, log'⟩ ⟨rfl, rfl⟩
    exact ⟨alikeResults_refl (fun _ => rfl) _, rfl, rfl⟩

theorem noted_logging (s : Stage σ) (s' : Stage (σ × Calls)) (ev : Event) (h : Noted s s') :
    Noted (s.logging ev) (s'.logging ev) :=
  ⟨h.1, congrArg (· ++ [ev]) h.2⟩

/-- **Noting the calls of a dispatch changes nothing about it.** -/
theorem alike_noting (d : Dispatcher σ) (t : Template) (value : Value) :
    Run.Alike (· = ·) Noted (d.invoke t value) (d.noting.invoke t value) :=
  d.alikeHosts_noting.invoke (sameCall_self t value noted_logging fun _ _ _ =>
    alikeResults_refl (fun _ => rfl) _)

end Dispatcher
end KeyCall
