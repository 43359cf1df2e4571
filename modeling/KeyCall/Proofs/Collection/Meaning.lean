import Mathlib
import KeyCall.Proofs.Collection.Trail
import KeyCall.Proofs.Entries.Merging

/-!
# What a collection becomes

The walk builds its output piece by piece, with calls in between that may do anything to the host.
What it builds can be said level by level, without the building, once the answers of the calls are
given: a list holds what its items become, and a mapping holds what its entries give, merged by the
keys that they resolve to.  The answers are handed down in the order of the walk, to each part as
many as it has templates.

## Main definitions

* `resolvedKey` — the key of the output that an entry goes to.
* `Value.filled` — what a collection becomes with the answers to its templates.
* `Value.ResolvesApart` — no two entries of a mapping resolve to one key, at any depth.
* `Value.SameShape` — two values have the same items and entries, in the same order.
* `Fills` — a run gives what the answers to its dispatches make of it.

## Main results

* `Fills.bind` — what two runs in a row give.
* `Handler.fills_processNested` — the walk gives what the answers make of the collection.
* `Value.sameShape_filled` — without collisions, the shape stays.
* `Handler.exists_answers` — what comes out is what the answers to the dispatches make of it.
* `processCollection_eq_filled` — **processing gives what the answers of the dispatched calls make of
  the collection.**
-/

namespace KeyCall

/-! ### The meaning of a collection -/

/-- The key of the output that an entry goes to. -/
def resolvedKey (key value : Value) : Value :=
  if value.isCollection then key
  else
    match (templateText? key).bind Template.match? with
    | some t => .text t.outkey
    | none => key

/-- How many of the entries are templates. -/
def templateCount (es : List (Value × Value)) : Nat := (templateEntries es).length

namespace Value

/-- The scalar entries among and under one entry. -/
def scalarEntriesOfEntry (key value : Value) : List (Value × Value) :=
  if value.isCollection then value.scalarEntries else [(key, value)]

mutual

/-- What a value becomes with the answers to its templates. -/
def filled : Value → List Value → Value
  | .list xs, answers => .list (filledItems xs answers)
  | .tuple xs, answers => .list (filledItems xs answers)
  | .mapping _ es, answers => .mapping .plain (Entries.merged sameKey (filledEntries es answers))
  | v, _ => v

/-- What items become: a scalar has no templates, and stays. -/
def filledItems : List Value → List Value → List Value
  | [], _ => []
  | x :: xs, answers =>
    let n := templateCount x.scalarEntries
    filled x (answers.take n) :: filledItems xs (answers.drop n)

/-- What entries give, each under the key that it resolves to: a nested collection what it becomes,
a template the answer to it, and any other entry, which has no answer, the value that it holds. -/
def filledEntries : List (Value × Value) → List Value → List (Value × Value)
  | [], _ => []
  | (k, v) :: es, answers =>
    let n := templateCount (scalarEntriesOfEntry k v)
    let own := answers.take n
    (resolvedKey k v, if v.isCollection then filled v own else own.headD v) ::
      filledEntries es (answers.drop n)

end

mutual

/-- No two entries of a mapping resolve to one key, at any depth. -/
def ResolvesApart : Value → Prop
  | .list xs => ResolvesApartItems xs
  | .tuple xs => ResolvesApartItems xs
  | .mapping _ es =>
    (es.map fun e => resolvedKey e.1 e.2).Pairwise (fun k k' => sameKey k k' = false) ∧
      ResolvesApartEntries es
  | _ => True

/-- No two entries of a mapping under the items resolve to one key. -/
def ResolvesApartItems : List Value → Prop
  | [] => True
  | x :: xs => ResolvesApart x ∧ ResolvesApartItems xs

/-- No two entries of a mapping under the entries resolve to one key. -/
def ResolvesApartEntries : List (Value × Value) → Prop
  | [] => True
  | (_, v) :: es => ResolvesApart v ∧ ResolvesApartEntries es

end

mutual

/-- A list or a tuple has become a list of as many items, and a mapping one of as many entries under
their resolved keys, both in the same order, and so on below.  Scalars stay, but for the place of a
template, which holds an answer. -/
def SameShape : Value → Value → Prop
  | .list xs, o => ∃ ys, o = .list ys ∧ SameShapeItems xs ys
  | .tuple xs, o => ∃ ys, o = .list ys ∧ SameShapeItems xs ys
  | .mapping _ es, o => ∃ fs, o = .mapping .plain fs ∧ SameShapeEntries es fs
  | v, o => o = v

/-- Item by item, the shape is the same. -/
def SameShapeItems : List Value → List Value → Prop
  | [], ys => ys = []
  | x :: xs, ys => ∃ y ys', ys = y :: ys' ∧ SameShape x y ∧ SameShapeItems xs ys'

/-- Entry by entry, the shape is the same. -/
def SameShapeEntries : List (Value × Value) → List (Value × Value) → Prop
  | [], fs => fs = []
  | (k, v) :: es, fs => ∃ w fs', fs = (resolvedKey k v, w) :: fs' ∧
      (v.isCollection = true ∨ templateText? k = none → SameShape v w) ∧ SameShapeEntries es fs'

end

end Value

theorem templateCount_append (es fs : List (Value × Value)) :
    templateCount (es ++ fs) = templateCount es + templateCount fs := by
  rw [templateCount, templateEntries_append, List.length_append, templateCount, templateCount]

/-- A template holds one answer, and nothing else does. -/
theorem templateCount_singleton (k v : Value) :
    templateCount [(k, v)] = if (templateText? k).isSome then 1 else 0 := by
  rw [templateCount, templateEntries_singleton]
  cases templateText? k <;> rfl

namespace Value

theorem filled_of_scalar {v : Value} (hv : v.isCollection = false) (answers : List Value) :
    v.filled answers = v := by
  cases v with
  | list xs => exact Bool.noConfusion hv
  | tuple xs => exact Bool.noConfusion hv
  | mapping kind es => exact Bool.noConfusion hv
  | _ => rfl

theorem resolvedKey_of_collection (k : Value) {v : Value} (hv : v.isCollection = true) :
    resolvedKey k v = k := by
  rw [resolvedKey, if_pos hv]

theorem scalarEntriesOfEntry_of_collection (k : Value) {v : Value} (hv : v.isCollection = true) :
    scalarEntriesOfEntry k v = v.scalarEntries := by
  rw [scalarEntriesOfEntry, if_pos hv]

theorem scalarEntriesOfEntry_of_scalar (k : Value) {v : Value} (hv : v.isCollection = false) :
    scalarEntriesOfEntry k v = [(k, v)] := by
  rw [scalarEntriesOfEntry, hv]
  rfl

theorem scalarEntriesOfEntries_cons (k v : Value) (es : List (Value × Value)) :
    scalarEntriesOfEntries ((k, v) :: es) =
      scalarEntriesOfEntry k v ++ scalarEntriesOfEntries es := rfl

end Value

/-! ### Runs and their answers -/

/-- Whenever a run that notes its dispatches gives a value, there is an answer to each of the
templates that it meets, and the value is what these answers make of it. -/
def Fills {σ : Type} (α : Type) (es : List (Value × Value)) (r : Run (σ × List (Dispatch σ)) α)
    (meaning : List Value → α) : Prop :=
  ∀ (s : Stage σ) (old : List (Dispatch σ)) (a : α) (t : Stage (σ × List (Dispatch σ))),
    r.run (s.noting old) = (.ok a, t) →
      ∃ (s' : Stage σ) (made : List (Dispatch σ)) (answers : List Value),
        t = s'.noting (old ++ made) ∧ made.map Dispatch.outcome = answers.map .ok ∧
        answers.length = templateCount es ∧ a = meaning answers

namespace Fills

variable {σ α β : Type}

theorem pure (a : α) : Fills (σ := σ) α [] (Pure.pure a) fun _ => a := by
  intro s old b t h
  cases h
  exact ⟨s, [], [], by rw [List.append_nil], rfl, rfl, rfl⟩

theorem record (e : Event) : Fills (σ := σ) Unit [] (Run.record e) fun _ => () := by
  intro s old b t h
  cases h
  exact ⟨⟨s.state, s.log ++ [e]⟩, [], [], by rw [List.append_nil]; rfl, rfl, rfl, rfl⟩

/-- Of two runs in a row, the first takes the answers to its own templates and leaves the rest to the
second. -/
theorem bind {es fs : List (Value × Value)} {r : Run (σ × List (Dispatch σ)) α}
    {f : α → Run (σ × List (Dispatch σ)) β} {m : List Value → α} {m' : α → List Value → β}
    (hr : Fills α es r m) (hf : ∀ a, Fills β fs (f a) (m' a)) :
    Fills β (es ++ fs) (r >>= f) fun answers =>
      m' (m (answers.take (templateCount es))) (answers.drop (templateCount es)) := by
  intro s old b t h
  rw [Run.run_bind] at h
  rcases hs : r.run (s.noting old) with ⟨e | a, t₁⟩
  · rw [hs] at h
    cases h
  · rw [hs] at h
    obtain ⟨s₁, made₁, answers₁, rfl, hmade₁, hlen₁, ha⟩ := hr s old a t₁ hs
    obtain ⟨s₂, made₂, answers₂, rfl, hmade₂, hlen₂, hb⟩ := hf a s₁ (old ++ made₁) b t h
    refine ⟨s₂, made₁ ++ made₂, answers₁ ++ answers₂, by rw [List.append_assoc], ?_, ?_, ?_⟩
    · rw [List.map_append, List.map_append, hmade₁, hmade₂]
    · rw [List.length_append, hlen₁, hlen₂, templateCount_append]
    · show b = m' (m ((answers₁ ++ answers₂).take (templateCount es)))
        ((answers₁ ++ answers₂).drop (templateCount es))
      rw [← hlen₁, List.take_left, List.drop_left, ← ha]
      exact hb

/-- What follows a run may meet no further template. -/
theorem bind_nil {es : List (Value × Value)} {r : Run (σ × List (Dispatch σ)) α}
    {f : α → Run (σ × List (Dispatch σ)) β} {m : List Value → α} {g : α → β}
    (hr : Fills α es r m) (hf : ∀ a, Fills β [] (f a) fun _ => g a) :
    Fills β es (r >>= f) fun answers => g (m answers) := by
  intro s old b t h
  obtain ⟨s', made, answers, ht, hmade, hlen, hb⟩ := hr.bind hf s old b t h
  rw [List.append_nil] at hlen
  refine ⟨s', made, answers, ht, hmade, hlen, ?_⟩
  show b = g (m answers)
  rw [hb, ← hlen]
  show g (m (answers.take answers.length)) = g (m answers)
  rw [List.take_length]

theorem congr {es : List (Value × Value)} {r : Run (σ × List (Dispatch σ)) α}
    {m m' : List Value → α} (hr : Fills α es r m) (h : ∀ answers, m answers = m' answers) :
    Fills α es r m' := by
  have hm : m = m' := funext h
  rw [← hm]
  exact hr

end Fills

/-- An entry that holds a scalar gives the answer to it under its resolved key, and itself if it is
no template. -/
theorem Handler.fills_process {σ : Type} (h : Handler σ) {k v : Value}
    (hv : v.isCollection = false) :
    Fills _ [(k, v)] (h.watched.process k v) fun own => (resolvedKey k v, own.headD v) := by
  intro s old o t hrun
  cases hk : templateText? k with
  | none =>
    rw [Handler.process_of_not_template _ _ (templateText?_eq_none_iff.1 hk)] at hrun
    cases hrun
    refine ⟨s, [], [], by rw [List.append_nil], rfl, ?_, ?_⟩
    · rw [templateCount_singleton, hk]
      rfl
    · rw [resolvedKey, hv, hk]
      rfl
  | some text =>
    obtain ⟨rfl, htext⟩ := eq_text_of_templateText?_eq_some hk
    rw [Handler.process_of_template _ _ htext] at hrun
    cases hp : Template.match? text with
    | none =>
      rw [Template.parse, hp] at hrun
      cases hrun
    | some tm =>
      rw [Template.parse, hp, Run.lift_ok_bind, Run.run_bind, Handler.run_watched] at hrun
      cases ho : ((h text tm v).run s).1 with
      | error e =>
        rw [ho] at hrun
        cases hrun
      | ok w =>
        rw [ho] at hrun
        cases hrun
        refine ⟨_, [h.dispatch text tm v s], [w], rfl, ?_, ?_, ?_⟩
        · rw [List.map_singleton, List.map_singleton, ← ho]
          rfl
        · rw [templateCount_singleton, hk]
          rfl
        · rw [resolvedKey, hv, hk, Option.bind_some, hp]
          rfl

/-- **The walk gives what the answers make of the collection.** -/
theorem Handler.fills_processNested {σ : Type} (h : Handler σ) :
    (∀ v, Fills _ v.scalarEntries (h.watched.processNested v) v.filled) ∧
    (∀ xs, Fills _ (Value.scalarEntriesOfItems xs) (h.watched.processItems xs)
      (Value.filledItems xs)) ∧
    ∀ es out, Fills _ (Value.scalarEntriesOfEntries es) (h.watched.processEntries out es)
      fun answers => Entries.putAll Value.sameKey out (Value.filledEntries es answers) := by
  refine Value.walk_induction
    (P := fun v => Fills _ v.scalarEntries (h.watched.processNested v) v.filled)
    (Q := fun xs => Fills _ (Value.scalarEntriesOfItems xs) (h.watched.processItems xs)
      (Value.filledItems xs))
    (R := fun es => ∀ out, Fills _ (Value.scalarEntriesOfEntries es)
      (h.watched.processEntries out es)
      fun answers => Entries.putAll Value.sameKey out (Value.filledEntries es answers))
    ?list ?tuple ?mapping ?scalar ?noItem ?item ?noEntry ?entry
  case list =>
    intro xs ih
    exact ih.bind_nil fun ys => Fills.pure _
  case tuple =>
    intro xs ih
    exact ih.bind_nil fun ys => Fills.pure _
  case mapping =>
    intro kind es ih
    have hmerge := (ih []).bind_nil (g := fun out => Value.mapping .plain out)
      fun out => Fills.pure (Value.mapping .plain out)
    simp only [Entries.putAll_nil_eq_merged] at hmerge
    exact hmerge
  case scalar =>
    intro v hv
    rw [Value.scalarEntries_of_scalar hv, Handler.processNested_of_scalar _ hv]
    have hfilled : v.filled = fun _ => v := funext (Value.filled_of_scalar hv)
    rw [hfilled]
    exact Fills.pure v
  case noItem => exact Fills.pure _
  case item =>
    intro x xs hx hxs
    exact hx.bind fun y => hxs.bind_nil fun ys => Fills.pure (y :: ys)
  case noEntry => exact fun out => Fills.pure out
  case entry =>
    intro k v es hv hes out
    rw [Value.scalarEntriesOfEntries_cons, Handler.processEntries]
    by_cases hc : v.isCollection = true
    · rw [if_pos hc, Value.scalarEntriesOfEntry_of_collection k hc]
      refine (hv.bind fun w => hes (Value.putEntry out k w)).congr fun answers => ?_
      rw [Value.filledEntries, Value.resolvedKey_of_collection k hc,
        Value.scalarEntriesOfEntry_of_collection k hc, if_pos hc]
      rfl
    · have hs : v.isCollection = false := by simpa using hc
      rw [if_neg hc, Value.scalarEntriesOfEntry_of_scalar k hs]
      -- Whether the write is recorded does not change what is written.
      have hrest : ∀ o : Value × Value, Fills _ (Value.scalarEntriesOfEntries es)
          (do
            if Entries.has Value.sameKey out o.1 then Run.record (.overwritten o.1 k)
            h.watched.processEntries (Value.putEntry out o.1 o.2) es)
          fun answers => Entries.putAll Value.sameKey (Value.putEntry out o.1 o.2)
            (Value.filledEntries es answers) := by
        intro o
        by_cases ho : Entries.has Value.sameKey out o.1 = true
        · simp only [ho, if_true]
          exact (Fills.record _).bind fun _ => hes (Value.putEntry out o.1 o.2)
        · simp only [ho]
          exact hes (Value.putEntry out o.1 o.2)
      refine ((h.fills_process hs).bind hrest).congr fun answers => ?_
      rw [Value.filledEntries, Value.scalarEntriesOfEntry_of_scalar k hs, if_neg hc]
      rfl

/-! ### Shape -/

namespace Value

theorem keys_filledEntries (es : List (Value × Value)) (answers : List Value) :
    Entries.keys (filledEntries es answers) = es.map fun e => resolvedKey e.1 e.2 := by
  induction es generalizing answers with
  | nil => rfl
  | cons e es ih =>
    obtain ⟨k, v⟩ := e
    rw [filledEntries, List.map_cons, ← ih]
    rfl

/-- **Without collisions, the shape stays.** -/
theorem sameShape_filled :
    (∀ v : Value, v.ResolvesApart → ∀ answers, v.SameShape (v.filled answers)) ∧
    (∀ xs, ResolvesApartItems xs → ∀ answers, SameShapeItems xs (filledItems xs answers)) ∧
    ∀ es, ResolvesApartEntries es → ∀ answers, SameShapeEntries es (filledEntries es answers) := by
  refine walk_induction
    (P := fun v => v.ResolvesApart → ∀ answers, v.SameShape (v.filled answers))
    (Q := fun xs => ResolvesApartItems xs →
      ∀ answers, SameShapeItems xs (filledItems xs answers))
    (R := fun es => ResolvesApartEntries es →
      ∀ answers, SameShapeEntries es (filledEntries es answers))
    ?list ?tuple ?mapping ?scalar ?noItem ?item ?noEntry ?entry
  case list =>
    intro xs ih hx answers
    rw [ResolvesApart] at hx
    exact ⟨_, rfl, ih hx answers⟩
  case tuple =>
    intro xs ih hx answers
    rw [ResolvesApart] at hx
    exact ⟨_, rfl, ih hx answers⟩
  case mapping =>
    intro kind es ih hx answers
    rw [ResolvesApart] at hx
    obtain ⟨hkeys, hes⟩ := hx
    have hapart : Entries.KeysApart sameKey (filledEntries es answers) := by
      rw [Entries.KeysApart, keys_filledEntries]
      exact hkeys
    refine ⟨filledEntries es answers, ?_, ih hes answers⟩
    rw [filled, Entries.merged_eq_self hapart]
  case scalar =>
    intro v hv _ answers
    rw [filled_of_scalar hv]
    cases v with
    | list xs => exact Bool.noConfusion hv
    | tuple xs => exact Bool.noConfusion hv
    | mapping kind es => exact Bool.noConfusion hv
    | _ => rfl
  case noItem => exact fun _ _ => rfl
  case item =>
    intro x xs hx hxs hapart answers
    rw [ResolvesApartItems] at hapart
    exact ⟨_, _, rfl, hx hapart.1 _, hxs hapart.2 _⟩
  case noEntry => exact fun _ _ => rfl
  case entry =>
    intro k v es hv hes hapart answers
    rw [ResolvesApartEntries] at hapart
    refine ⟨_, _, rfl, fun hstays => ?_, hes hapart.2 _⟩
    by_cases hc : v.isCollection = true
    · rw [if_pos hc]
      exact hv hapart.1 _
    · -- The entry is no template, so it has no answer.
      have hs : v.isCollection = false := by simpa using hc
      have hcount : templateCount (scalarEntriesOfEntry k v) = 0 := by
        rw [scalarEntriesOfEntry_of_scalar k hs, templateCount_singleton,
          hstays.resolve_left hc]
        rfl
      rw [if_neg hc, hcount, List.take_zero]
      have hv' := hv hapart.1 []
      rw [filled_of_scalar hs] at hv'
      exact hv'

theorem isIterable_of_isCollection {c : Value} (hc : c.isCollection = true) : c.IsIterable := by
  cases c with
  | list xs => exact Or.inr ⟨xs, rfl⟩
  | tuple xs => exact Or.inr ⟨xs, rfl⟩
  | mapping kind es => exact Or.inl rfl
  | _ => exact Bool.noConfusion hc

end Value

/-- At the top, a collection is processed as it is below. -/
theorem Handler.processCollection_eq_processNested {σ : Type} (h : Handler σ) {c : Value}
    (hc : c.isCollection = true) : h.processCollection c = h.processNested c := by
  cases c with
  | list xs => rfl
  | tuple xs => rfl
  | mapping kind es => rfl
  | _ => exact Bool.noConfusion hc

/-! ### Processing -/

/-- What comes out of a collection is what the answers to its dispatches make of it. -/
theorem Handler.exists_answers {σ : Type} (h : Handler σ) {c o : Value}
    (hc : c.isCollection = true) {s : Stage σ}
    (ho : ((h.processCollection c).run s).1 = .ok o) :
    ∃ answers : List Value,
      (h.dispatches c s).map Dispatch.outcome = answers.map .ok ∧ o = c.filled answers := by
  have hwatch := (h.watched_processCollection (Value.isIterable_of_isCollection hc) s).1
  rw [ho, Handler.processCollection_eq_processNested _ hc] at hwatch
  obtain ⟨s', made, answers, hnotes, hout, -, hfilled⟩ := h.fills_processNested.1 c s [] o _ hwatch
  have hmade : h.dispatches c s = made := congrArg (fun t => t.state.2) hnotes
  exact ⟨answers, by rw [hmade, hout], hfilled⟩

/-- **Processing gives what the answers make of the collection.**  There is one dispatch for each
template, in the order of the walk, each of them a call that starts where the one before it left the
host, and the answers are what they give.  If no two entries of a mapping resolve to one key, then
the output has the shape of the collection. -/
theorem processCollection_eq_filled {σ : Type} (d : Dispatcher σ) {c o : Value}
    (hc : c.isCollection = true) (s : Stage σ)
    (ho : ((d.processCollection c).run s).1 = .ok o) :
    let made := d.handler.dispatches c s
    ∃ answers : List Value,
      made.map Dispatch.entry = templateEntries c.scalarEntries ∧
      (∀ x ∈ made, Template.parse x.key = .ok x.template ∧
        (d.invoke x.template x.value).run x.before = (x.outcome, x.after)) ∧
      Successive s.state made ((d.processCollection c).run s).2.state ∧
      made.map Dispatch.outcome = answers.map .ok ∧
      o = c.filled answers ∧
      (c.ResolvesApart → c.SameShape o) := by
  intro made
  change ((d.handler.processCollection c).run s).1 = .ok o at ho
  have htrail := (d.handler.watched_processCollection (Value.isIterable_of_isCollection hc) s).2
  rw [ho] at htrail
  obtain ⟨answers, hout, hfilled⟩ := d.handler.exists_answers hc ho
  refine ⟨answers, htrail.entries_eq, fun x hx => ?_, htrail.successive, hout, hfilled, ?_⟩
  · exact ⟨(htrail.genuine x hx).1, d.run_invoke_of_dispatch (htrail.genuine x hx).2⟩
  · intro hapart
    rw [hfilled]
    exact Value.sameShape_filled.1 c hapart answers

/-- A mapping in which a template and a nested list go to one key, and a plain entry and a template to
another.  The list holds a text that looks like a template. -/
def collidingRow : Value :=
  .mapping .ordered
    [(.text "a", .int 7), (.text "$\x7bgo(?)\x7d:b", .null),
      (.text "b", .list [.text "$\x7bgo()\x7d:x",
        .mapping .plain [(.text "$\x7bgo()\x7d:y", .bool true)]]),
      (.text "$\x7bgo()\x7d:a", .int 0)]

/-- Each key stays where it is met first, and the value that is written to it last wins. -/
theorem processCollection_eq_filled_of_collision :
    let o : Value := .mapping .plain
      [(.text "a", .int 2),
        (.text "b", .list [.text "$\x7bgo()\x7d:x", .mapping .plain [(.text "y", .int 1)]])]
    collidingRow.isCollection = true ∧
      ((countingDispatcher.processCollection collidingRow).run ⟨0, []⟩).1 = .ok o ∧
      o = collidingRow.filled [.int 0, .int 1, .int 2] := by
  intro o
  have ho : ((countingDispatcher.processCollection collidingRow).run ⟨0, []⟩).1 = .ok o := by cbv
  obtain ⟨answers, -, -, -, hanswers, hfilled, -⟩ :=
    processCollection_eq_filled countingDispatcher (c := collidingRow) rfl ⟨0, []⟩ ho
  have hthree : (countingDispatcher.handler.dispatches collidingRow ⟨0, []⟩).map Dispatch.outcome =
      [Value.int 0, .int 1, .int 2].map .ok := by cbv
  rw [hthree] at hanswers
  have heq : [Value.int 0, .int 1, .int 2] = answers :=
    (List.map_inj_right fun a b hab => Except.ok.inj hab).1 hanswers
  rw [heq]
  exact ⟨rfl, ho, hfilled⟩

end KeyCall
