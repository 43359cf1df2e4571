import KeyCall.Proofs.Collection.Walk
import KeyCall.Proofs.Dispatch.Failure

/-!
# What processing hands to its dispatcher

A handler can note what it is handed without changing what it does: its state is paired with the
notes.  The walk of the noting handler is the walk of the handler itself, and what it has noted at
the end is the trail of the walk: one dispatch for each template in turn, each of them starting
where the one before it left the host, up to the first that fails.

The trail is compared with the scalar entries of the collection, and through them with what
validation gives.

## Main definitions

* `Dispatch` — a template handed on, with the stages before and after it.
* `Handler.watched` — a handler that notes its dispatches.
* `Handler.dispatches` — the notes of a walk.
* `Trail` — the dispatches that handling a list of entries in turn leads to.

## Main results

* `Handler.watched_processCollection` — noting changes nothing, and the notes are a trail.
* `processCollection_follows_validation` — **processing dispatches what validation gives, in its
  order, and stops at the first failure.**
-/

namespace KeyCall

/-! ### Notes -/

/-- A template that was handed on, with what came of it. -/
structure Dispatch (σ : Type) where
  /-- The key. -/
  key : String
  /-- The template that the key was read as. -/
  template : Template
  /-- The value under the key. -/
  value : Value
  /-- The stage it was handed on at. -/
  before : Stage σ
  /-- What came back. -/
  outcome : Except Error Value
  /-- The stage it left behind. -/
  after : Stage σ

/-- The entry that a dispatch was made for. -/
def Dispatch.entry {σ : Type} (x : Dispatch σ) : String × Value := (x.key, x.value)

/-- A stage whose state carries notes. -/
def Stage.noting {σ : Type} (s : Stage σ) (made : List (Dispatch σ)) :
    Stage (σ × List (Dispatch σ)) := ⟨(s.state, made), s.log⟩

/-- The stage under the notes. -/
def Stage.unnoted {σ : Type} (s : Stage (σ × List (Dispatch σ))) : Stage σ := ⟨s.state.1, s.log⟩

namespace Handler

variable {σ : Type}

/-- The dispatch that handing a template to a handler makes. -/
def dispatch (h : Handler σ) (key : String) (t : Template) (value : Value) (s : Stage σ) :
    Dispatch σ :=
  ⟨key, t, value, s, ((h key t value).run s).1, ((h key t value).run s).2⟩

/-- The handler that does the same and notes it. -/
def watched (h : Handler σ) : Handler (σ × List (Dispatch σ)) := fun key t value s =>
  let x := h.dispatch key t value s.unnoted
  (x.outcome, x.after.noting (s.state.2 ++ [x]))

/-- A watched handler does what the handler does and adds a note. -/
theorem run_watched (h : Handler σ) (key : String) (t : Template) (value : Value) (s : Stage σ)
    (old : List (Dispatch σ)) :
    (h.watched key t value).run (s.noting old) =
      (((h key t value).run s).1,
        ((h key t value).run s).2.noting (old ++ [h.dispatch key t value s])) := rfl

/-- What a handler is handed in the walk over a collection. -/
def dispatches (h : Handler σ) (c : Value) (s : Stage σ) : List (Dispatch σ) :=
  ((h.watched.processCollection c).run (s.noting [])).2.state.2

end Handler

/-! ### Trails -/

/-- The dispatches that handling entries in turn leads to: from a state of the host to another one,
with the error that ended it, if there is one.  What happens to the log in between is left open. -/
inductive Trail {σ : Type} (h : Handler σ) :
    List (String × Value) → σ → List (Dispatch σ) → Option Error → σ → Prop
  /-- There is nothing left to do. -/
  | done (st : σ) : Trail h [] st [] none st
  /-- The key cannot be read. -/
  | refused {key : String} {value : Value} {es : List (String × Value)} {st : σ} {e : Error} :
    Template.parse key = .error e → Trail h ((key, value) :: es) st [] (some e) st
  /-- The dispatch fails. -/
  | failed {key : String} {value : Value} {es : List (String × Value)} {s : Stage σ} {t : Template}
    {e : Error} :
    Template.parse key = .ok t → (h.dispatch key t value s).outcome = .error e →
    Trail h ((key, value) :: es) s.state [h.dispatch key t value s] (some e)
      (h.dispatch key t value s).after.state
  /-- The dispatch succeeds, and the rest follows. -/
  | step {key : String} {value w : Value} {es : List (String × Value)} {s : Stage σ} {t : Template}
    {made : List (Dispatch σ)} {stop : Option Error} {st : σ} :
    Template.parse key = .ok t → (h.dispatch key t value s).outcome = .ok w →
    Trail h es (h.dispatch key t value s).after.state made stop st →
    Trail h ((key, value) :: es) s.state (h.dispatch key t value s :: made) stop st

/-- Each dispatch starts in the state that the one before it left behind. -/
def Successive {σ : Type} (st : σ) : List (Dispatch σ) → σ → Prop
  | [], st' => st = st'
  | x :: xs, st' => x.before.state = st ∧ Successive x.after.state xs st'

namespace Trail

variable {σ : Type} {h : Handler σ} {es fs : List (String × Value)} {st st' st'' : σ}
  {made made' : List (Dispatch σ)} {stop : Option Error}

/-- A trail that ended without an error goes on with another one. -/
theorem append (ha : Trail h es st made none st') (hb : Trail h fs st' made' stop st'') :
    Trail h (es ++ fs) st (made ++ made') stop st'' := by
  generalize hn : (none : Option Error) = stop' at ha
  induction ha with
  | done st => exact hb
  | refused hp => cases hn
  | failed hp ho => cases hn
  | step hp ho _ ih => exact .step hp ho (ih hb hn)

/-- A trail that ended with an error stays the same whatever was still to come. -/
theorem extend {e : Error} (ha : Trail h es st made (some e) st') (fs : List (String × Value)) :
    Trail h (es ++ fs) st made (some e) st' := by
  generalize hn : some e = stop' at ha
  induction ha with
  | done st => cases hn
  | refused hp => exact .refused hp
  | failed hp ho => exact .failed hp ho
  | step hp ho _ ih => exact .step hp ho (ih hn)

/-- What is dispatched is what there was to handle, in order, up to some point. -/
theorem entries_isPrefix (ht : Trail h es st made stop st') :
    made.map Dispatch.entry <+: es := by
  induction ht with
  | done st => exact List.prefix_rfl
  | refused hp => exact List.nil_prefix
  | failed hp ho => exact List.cons_prefix_cons.2 ⟨rfl, List.nil_prefix⟩
  | step hp ho _ ih => exact List.cons_prefix_cons.2 ⟨rfl, ih⟩

/-- Without an error, everything is dispatched. -/
theorem entries_eq (ht : Trail h es st made none st') : made.map Dispatch.entry = es := by
  generalize hn : (none : Option Error) = stop' at ht
  induction ht with
  | done st => rfl
  | refused hp => cases hn
  | failed hp ho => cases hn
  | step hp ho _ ih =>
    rw [List.map_cons, ih hn]
    rfl

/-- Every dispatch is one of the handler, of a key that is read as its template. -/
theorem genuine (ht : Trail h es st made stop st') :
    ∀ x ∈ made, Template.parse x.key = .ok x.template ∧
      x = h.dispatch x.key x.template x.value x.before := by
  induction ht with
  | done st => exact fun x hx => absurd hx List.not_mem_nil
  | refused hp => exact fun x hx => absurd hx List.not_mem_nil
  | failed hp ho =>
    intro x hx
    rw [List.mem_singleton.1 hx]
    exact ⟨hp, rfl⟩
  | step hp ho _ ih =>
    intro x hx
    rcases List.mem_cons.1 hx with rfl | hx
    · exact ⟨hp, rfl⟩
    · exact ih x hx

theorem successive (ht : Trail h es st made stop st') : Successive st made st' := by
  induction ht with
  | done st => rfl
  | refused hp => rfl
  | failed hp ho => exact ⟨rfl, rfl⟩
  | step hp ho _ ih => exact ⟨rfl, ih⟩

/-- Without an error, every dispatch succeeds. -/
theorem outcome_ok (ht : Trail h es st made none st') : ∀ x ∈ made, ∃ w, x.outcome = .ok w := by
  generalize hn : (none : Option Error) = stop' at ht
  induction ht with
  | done st => exact fun x hx => absurd hx List.not_mem_nil
  | refused hp => cases hn
  | failed hp ho => cases hn
  | step hp ho _ ih =>
    intro x hx
    rcases List.mem_cons.1 hx with rfl | hx
    · exact ⟨_, ho⟩
    · exact ih hn x hx

/-- If all keys can be read, then an error is that of the last dispatch, and the ones before it
succeed. -/
theorem last_failed {e : Error} (ht : Trail h es st made (some e) st')
    (hread : ∀ x ∈ es, ∃ t, Template.parse x.1 = .ok t) :
    ∃ front last, made = front ++ [last] ∧ last.outcome = .error e ∧
      ∀ x ∈ front, ∃ w, x.outcome = .ok w := by
  generalize hn : some e = stop' at ht
  induction ht with
  | done st => cases hn
  | refused hp =>
    obtain ⟨t, ht⟩ := hread _ List.mem_cons_self
    rw [hp] at ht
    cases ht
  | failed hp ho =>
    cases hn
    exact ⟨[], _, rfl, ho, fun x hx => absurd hx List.not_mem_nil⟩
  | step hp ho _ ih =>
    obtain ⟨front, last, rfl, hlast, hfront⟩ :=
      ih (fun x hx => hread x (List.mem_cons_of_mem _ hx)) hn
    refine ⟨_ :: front, last, rfl, hlast, fun x hx => ?_⟩
    rcases List.mem_cons.1 hx with rfl | hx
    · exact ⟨_, ho⟩
    · exact hfront x hx

end Trail

/-! ### The walk of a watched handler -/

/-- A run of a watched handler does what the run of the handler does, and notes the trail of the
entries it meets. -/
def Follows {σ : Type} (h : Handler σ) (α : Type) (es : List (Value × Value))
    (r : Run (σ × List (Dispatch σ)) α) (r' : Run σ α) : Prop :=
  ∀ (s : Stage σ) (old : List (Dispatch σ)), ∃ made,
    r.run (s.noting old) = ((r'.run s).1, (r'.run s).2.noting (old ++ made)) ∧
    Trail h (templateEntries es) s.state made (failure? (r'.run s).1) (r'.run s).2.state

theorem follows_walkRelation {σ : Type} (h : Handler σ) : WalkRelation (Follows h) where
  pure a := fun s old => ⟨[], by rw [List.append_nil]; rfl, .done s.state⟩
  record e := fun s old => ⟨[], by rw [List.append_nil]; rfl, .done s.state⟩
  bind {α β es fs r r' f f'} hr hf := by
    intro s old
    obtain ⟨made, hrun, htrail⟩ := hr s old
    -- Either the first run ends the walk, or the second goes on from where it left off.
    rw [templateEntries_append, Run.run_bind, Run.run_bind, hrun]
    rcases hs : r'.run s with ⟨e | a, s'⟩
    · rw [hs] at htrail
      exact ⟨made, rfl, htrail.extend _⟩
    · rw [hs] at htrail
      obtain ⟨made', hrun', htrail'⟩ := hf a s' (old ++ made)
      exact ⟨made ++ made', by rw [← List.append_assoc]; exact hrun', htrail.append htrail'⟩

/-- A watched handler notes an entry whose key is a template, and no other. -/
theorem follows_process {σ : Type} (h : Handler σ) (e : Value × Value) :
    Follows h _ [e] (h.watched.process e.1 e.2) (h.process e.1 e.2) := by
  intro s old
  obtain ⟨key, value⟩ := e
  rw [templateEntries_singleton]
  cases hk : templateText? key with
  | none =>
    -- Nothing is handed on, so nothing is noted.
    have hkey := templateText?_eq_none_iff.1 hk
    rw [Handler.process_of_not_template _ _ hkey, Handler.process_of_not_template _ _ hkey]
    exact ⟨[], by rw [List.append_nil]; rfl, .done s.state⟩
  | some text =>
    obtain ⟨rfl, htext⟩ := eq_text_of_templateText?_eq_some hk
    rw [Handler.process_of_template _ _ htext, Handler.process_of_template _ _ htext]
    cases hp : Template.parse text with
    | error e => exact ⟨[], by rw [List.append_nil]; rfl, .refused hp⟩
    | ok t =>
      rw [Run.lift_ok_bind, Run.lift_ok_bind, Run.run_bind, Run.run_bind, Handler.run_watched]
      cases ho : ((h text t value).run s).1 with
      | error e =>
        have hrun : (h text t value).run s = (.error e, ((h text t value).run s).2) :=
          Prod.ext ho rfl
        exact ⟨[h.dispatch text t value s], by rw [hrun], by rw [hrun]; exact .failed hp ho⟩
      | ok w =>
        have hrun : (h text t value).run s = (.ok w, ((h text t value).run s).2) :=
          Prod.ext ho rfl
        exact ⟨[h.dispatch text t value s], by rw [hrun]; rfl,
          by rw [hrun]; exact .step hp ho (.done _)⟩

/-- **Noting changes nothing about a walk, and what is noted is a trail of the templates among the
scalar entries.** -/
theorem Handler.watched_processCollection {σ : Type} (h : Handler σ) {c : Value}
    (hc : c.IsIterable) (s : Stage σ) :
    (h.watched.processCollection c).run (s.noting []) =
        (((h.processCollection c).run s).1,
          ((h.processCollection c).run s).2.noting (h.dispatches c s)) ∧
      Trail h (templateEntries c.scalarEntries) s.state (h.dispatches c s)
        (failure? ((h.processCollection c).run s).1) ((h.processCollection c).run s).2.state := by
  obtain ⟨made, hrun, htrail⟩ :=
    (follows_walkRelation h).processCollection hc (fun e _ => follows_process h e) s []
  have hmade : h.dispatches c s = made := by
    rw [Handler.dispatches, hrun]
    rfl
  rw [hmade]
  exact ⟨hrun, htrail⟩

/-! ### Validation and processing -/

/-- A dispatcher's dispatches are the calls that the templates describe. -/
theorem Dispatcher.run_invoke_of_dispatch {σ : Type} (d : Dispatcher σ) {x : Dispatch σ}
    (hx : x = d.handler.dispatch x.key x.template x.value x.before) :
    (d.invoke x.template x.value).run x.before = (x.outcome, x.after) := by
  rw [hx]
  rfl

/-- **Processing dispatches the templates that validation gives, in their order.**  It dispatches
all of them unless one fails.  That one is the last, its error is the error of the whole, and it
starts in the state that the ones before it left behind.  None is ever refused as unreadable. -/
theorem processCollection_follows_validation {σ : Type} (d : Dispatcher σ)
    (hd : d.TargetsNeverRaise .parse) {c : Value} {found : List String}
    (hc : validateCollection c = .ok found) (s : Stage σ) :
    let made := d.handler.dispatches c s
    let result := ((d.processCollection c).run s).1
    let final := ((d.processCollection c).run s).2
    (d.handler.watched.processCollection c).run (s.noting []) = (result, final.noting made) ∧
      (∀ e, result = .error e → e.kind ≠ .parse) ∧
      made.map Dispatch.key <+: found ∧
      (∀ x ∈ made, Template.parse x.key = .ok x.template ∧
        (d.invoke x.template x.value).run x.before = (x.outcome, x.after)) ∧
      Successive s.state made final.state ∧
      ((∃ o, result = .ok o) →
        made.map Dispatch.key = found ∧ ∀ x ∈ made, ∃ w, x.outcome = .ok w) ∧
      ∀ e, result = .error e → ∃ front last, made = front ++ [last] ∧ last.outcome = .error e ∧
        ∀ x ∈ front, ∃ w, x.outcome = .ok w := by
  intro made result final
  obtain ⟨hiter, hread, rfl⟩ := validateCollection_eq_ok_iff.1 hc
  obtain ⟨hwatch, htrail⟩ := d.handler.watched_processCollection hiter s
  change Trail d.handler _ s.state made (failure? result) final.state at htrail
  have hkeys : ∀ xs : List (Dispatch σ),
      xs.map Dispatch.key = (xs.map Dispatch.entry).map Prod.fst := by
    intro xs
    rw [List.map_map]
    rfl
  have hgenuine : ∀ x ∈ made, Template.parse x.key = .ok x.template ∧
      (d.invoke x.template x.value).run x.before = (x.outcome, x.after) := fun x hx =>
    ⟨(htrail.genuine x hx).1, d.run_invoke_of_dispatch (htrail.genuine x hx).2⟩
  have hfront : made.map Dispatch.key <+: templateTexts c.scalarEntries := by
    rw [hkeys]
    exact htrail.entries_isPrefix.map Prod.fst
  have hlast : ∀ e, result = .error e → ∃ front last, made = front ++ [last] ∧
      last.outcome = .error e ∧ ∀ x ∈ front, ∃ w, x.outcome = .ok w := by
    intro e he
    rw [he] at htrail
    refine htrail.last_failed fun x hx => ?_
    obtain ⟨t, ps, ht, -⟩ := hread x.1 (List.mem_map_of_mem hx)
    exact ⟨t, ht⟩
  refine ⟨hwatch, fun e he => ?_, hfront, hgenuine, htrail.successive, ?_, hlast⟩
  · -- The error is that of the last dispatch, and validation has read that one's property list.
    obtain ⟨front, last, hmade, hout, -⟩ := hlast e he
    have hmem : last ∈ made := by rw [hmade]; exact List.mem_append_right _ List.mem_cons_self
    obtain ⟨hparse, hrun⟩ := hgenuine last hmem
    obtain ⟨t, ps, ht, hps⟩ := hread last.key (hfront.subset (List.mem_map_of_mem hmem))
    rw [hparse] at ht
    cases ht
    refine Dispatcher.invoke_failsOnly hd hps last.value last.before e ?_
    rw [hrun]
    exact hout
  · rintro ⟨o, ho⟩
    rw [ho] at htrail
    refine ⟨?_, htrail.outcome_ok⟩
    rw [hkeys, htrail.entries_eq]
    rfl

/-! ### A walk that stops -/

/-- A host that counts its calls, and whose function `no` fails. -/
def countingHost : Host Nat where
  call f _ n :=
    match f with
    | .target ⟨"no", _⟩ _ => (.error (.raised .runtime "no" none), n)
    | _ => (.ok (.int n), n + 1)
  inherited? _ _ := none
  guard := Chain.unguarded
  describe _ := .ok ""

/-- The functions `go` and `no` of the counting host. -/
def countingDispatcher : Dispatcher Nat where
  host := countingHost
  registry :=
    ⟨[("go", .target ⟨"go", .function "go"⟩ []), ("no", .target ⟨"no", .function "no"⟩ [])]⟩

theorem countingDispatcher_targetsNeverRaise : countingDispatcher.TargetsNeverRaise .parse where
  call {f} args n e _ he := by
    change (countingHost.call f args n).1 = .error e at he
    simp only [countingHost] at he
    split at he
    · cases he
      decide
    · cases he
  guard _ _ _ _ _ hg := by cases hg

/-- Rows with three templates, the first of them below the top. -/
def countedRows : Value :=
  .mapping .plain
    [(.text "rows", .list [.mapping .plain [(.text "$\x7bgo()\x7d:first", .null)]]),
      (.text "$\x7bno(?)\x7d:second", .int 1), (.text "$\x7bgo(?)\x7d:third", .int 2)]

/-- The second template fails, so the third, which validation gives too, is not dispatched. -/
theorem processCollection_follows_validation_of_failure :
    let made := countingDispatcher.handler.dispatches countedRows ⟨0, []⟩
    let found := ["$\x7bgo()\x7d:first", "$\x7bno(?)\x7d:second", "$\x7bgo(?)\x7d:third"]
    countingDispatcher.TargetsNeverRaise .parse ∧ validateCollection countedRows = .ok found ∧
      made.map Dispatch.key <+: found ∧ made.length = 2 := by
  intro made found
  have hc : validateCollection countedRows = .ok found := by rfl
  have h := processCollection_follows_validation countingDispatcher
    countingDispatcher_targetsNeverRaise hc ⟨0, []⟩
  exact ⟨countingDispatcher_targetsNeverRaise, hc, h.2.2.1, by decide +kernel⟩

end KeyCall
