import KeyCall.Kit.Catalogue
import KeyCall.Proofs.Collection.Trail
import KeyCall.Proofs.Dispatch.Support

/-!
# What validation accepts

Validation reads every template and its property list, but not the paths in it.  So a collection
that it accepts can still fail when every name resolves and every call is answered, namely where a
property is bound whose name has an empty segment.  That is also the only way left: the walk ends
with the first such path, if there is one, and otherwise returns.

## Main definitions

* `keyPaths` — the paths along which the dispatch of a key writes.

## Main results

* `Trail.failure_eq` — the error of a trail of supported templates.
* `processCollection_ok_iff_paths` — **what validation accepts and the dispatcher supports can be
  processed exactly when every bound name is a path.**
-/

namespace KeyCall

/-- The paths along which the dispatch of a key writes. -/
def keyPaths (key : String) : List String :=
  match Template.parse key with
  | .ok t => t.paths
  | .error _ => []

/-- A trail of supported templates ends with the first bad path among all that were to be handled,
and without an error if there is none. -/
theorem Trail.failure_eq {σ : Type} {d : Dispatcher σ} {es : List (String × Value)} {st st' : σ}
    {made : List (Dispatch σ)} {stop : Option Error} (ht : Trail d.handler es st made stop st')
    (hread : ∀ e ∈ es, IsReadable e.1)
    (hs : ∀ x ∈ made, d.Supports x.template x.value x.before.state) :
    stop = (badPath? (es.flatMap fun e => keyPaths e.1)).map Error.badPath := by
  -- One dispatch: it was read, so its error is that of its own first bad path.
  have hone : ∀ {key : String} {value : Value} {s : Stage σ} {t : Template}, IsReadable key →
      Template.parse key = .ok t → d.Supports t value s.state →
      failure? (d.handler.dispatch key t value s).outcome =
        (badPath? (keyPaths key)).map Error.badPath := by
    intro key value s t hk hp hsup
    obtain ⟨t', ps, ht', hps⟩ := hk
    rw [hp] at ht'
    cases ht'
    rw [keyPaths, hp]
    exact Dispatcher.failure?_invoke hsup hps
  induction ht with
  | done st => rfl
  | refused hp =>
    obtain ⟨t, ps, ht, -⟩ := hread _ List.mem_cons_self
    rw [hp] at ht
    cases ht
  | @failed key value es s t e hp ho =>
    have hout : failure? (d.handler.dispatch key t value s).outcome = _ :=
      hone (hread (key, value) List.mem_cons_self) hp (hs _ List.mem_cons_self)
    rw [ho] at hout
    rw [List.flatMap_cons, badPath?_append]
    cases hb : badPath? (keyPaths key) with
    | none => rw [hb] at hout; cases hout
    | some path =>
      rw [hb] at hout
      exact hout
  | @step key value w es s t made stop st hp ho _ ih =>
    have hout : failure? (d.handler.dispatch key t value s).outcome = _ :=
      hone (hread (key, value) List.mem_cons_self) hp (hs _ List.mem_cons_self)
    rw [ho] at hout
    rw [List.flatMap_cons, badPath?_append, ih (fun e he => hread e (List.mem_cons_of_mem _ he))
      fun x hx => hs x (List.mem_cons_of_mem _ hx)]
    cases hb : badPath? (keyPaths key) with
    | none => rfl
    | some path => rw [hb] at hout; cases hout

/-- **What validation accepts and the dispatcher supports can be processed exactly when every bound
name is a path.**  The dispatcher has to support what is dispatched only: the names resolve, the
calls are answered, and the models are open.  If a bound name is no path, then the walk fails with
the first of them. -/
theorem processCollection_ok_iff_paths {σ : Type} (d : Dispatcher σ) {c : Value}
    {found : List String} (hc : validateCollection c = .ok found) (s : Stage σ)
    (hs : ∀ x ∈ d.handler.dispatches c s, d.Supports x.template x.value x.before.state) :
    let result := ((d.processCollection c).run s).1
    let paths := found.flatMap keyPaths
    ((∃ o, result = .ok o) ↔ ∀ path ∈ paths, Chain.IsPath path) ∧
      ∀ e, result = .error e ↔ ∃ path, badPath? paths = some path ∧ e = .badPath path := by
  intro result paths
  obtain ⟨hiter, hread, rfl⟩ := validateCollection_eq_ok_iff.1 hc
  have htrail := (d.handler.watched_processCollection hiter s).2
  have hpaths : (templateEntries c.scalarEntries).flatMap (fun e => keyPaths e.1) = paths := by
    show _ = ((templateEntries c.scalarEntries).map Prod.fst).flatMap keyPaths
    rw [List.flatMap_map]
  have hfail : failure? result = (badPath? paths).map Error.badPath := by
    rw [← hpaths]
    exact htrail.failure_eq (fun e he => hread e.1 (List.mem_map_of_mem he)) hs
  constructor
  · rw [← failure?_eq_none_iff, hfail, Option.map_eq_none_iff, badPath?_eq_none_iff]
  · intro e
    rw [← failure?_eq_some_iff, hfail, Option.map_eq_some_iff]
    exact exists_congr fun path => and_congr_right fun _ => eq_comm

/-! ### A path that ends in a dot -/

/-- The kit with all its targets. -/
def kitDispatcher : Dispatcher Kit.State where
  host := Kit.host
  registry := ⟨Kit.targets⟩

/-- A key with a property whose name ends in a dot.  The model is an open record, and what presents
it takes any model. -/
def trailingDot : String := "$\x7bMeta(\x7bname.: ?\x7d).join()\x7d:k"

/-- A row with that key. -/
def trailingDotRow : Value := .mapping .plain [(.text trailingDot, .text "X")]

/-- What the key is read as. -/
def trailingDotTemplate : Template where
  method := "join"
  outkey := "k"
  className := some "Meta"
  properties := some "name.: ?"

theorem kitDispatcher_supports_trailingDot (value : Value) (st : Kit.State) :
    kitDispatcher.Supports trailingDotTemplate value st := by
  have hpairs : trailingDotTemplate.pairs = .ok [⟨"name.", "?"⟩] := by rfl
  refine ⟨_, .record [], st, rfl, rfl, trivial, _, rfl, fun ps bound hps hbound => ?_⟩
  -- The model is never bound, so nothing is asked of what presents it.
  have hfail : failure? (bindModel kitDispatcher.host.guard value (.record []) ps) =
      (badPath? (boundPaths ps)).map Error.badPath := failure?_bindModel trivial
  rw [hpairs] at hps
  cases hps
  rw [hbound] at hfail
  exact absurd (Option.map_eq_none_iff.1 hfail.symm) (by decide)

/-- Validation accepts the row and the kit supports it, but it cannot be processed. -/
theorem processCollection_ok_iff_paths_of_trailingDot :
    let result := ((kitDispatcher.processCollection trailingDotRow).run ⟨{}, []⟩).1
    validateCollection trailingDotRow = .ok [trailingDot] ∧
      (∀ x ∈ kitDispatcher.handler.dispatches trailingDotRow ⟨{}, []⟩,
        kitDispatcher.Supports x.template x.value x.before.state) ∧
      result = .error (.badPath "name.") := by
  intro result
  have hc : validateCollection trailingDotRow = .ok [trailingDot] := by rfl
  have hmade : (kitDispatcher.handler.dispatches trailingDotRow ⟨{}, []⟩).map Dispatch.template =
      [trailingDotTemplate] := by decide +kernel
  have hs : ∀ x ∈ kitDispatcher.handler.dispatches trailingDotRow ⟨{}, []⟩,
      kitDispatcher.Supports x.template x.value x.before.state := by
    intro x hx
    have htemplate : x.template = trailingDotTemplate := by
      rw [← List.mem_singleton, ← hmade]
      exact List.mem_map_of_mem hx
    rw [htemplate]
    exact kitDispatcher_supports_trailingDot x.value x.before.state
  have h := processCollection_ok_iff_paths kitDispatcher hc ⟨{}, []⟩ hs
  exact ⟨hc, hs, (h.2 _).2 ⟨"name.", by decide +kernel, rfl⟩⟩

end KeyCall
