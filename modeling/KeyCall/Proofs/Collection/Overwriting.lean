import KeyCall.Proofs.Collection.Meaning

/-!
# Entries that replace others

The output of a mapping has fewer entries than the mapping where entries go to a key that is there
already.  The later of them replaces the earlier one, and that is recorded, unless the later one
holds a collection: such an entry is written without a look at the output.

The walk is made once more with an account of every mapping that it meets, of what its entries give,
and of what is recorded while they are written.  The accounts balance: the entries of a mapping are
those of its output, those whose replacing others was recorded, and those that hold a collection and
replaced others silently.

## Main definitions

* `Handler.give`, `Handler.write` — the two halves of what is done with an entry.
* `Pass`, `Visit` — the account of an entry, and of a mapping with all its entries.
* `Handler.survey` — the walk with its accounts.
* `Value.mappings` — the mappings in a value, in the order of the walk.
* `Pass.replaces`, `Pass.isSilent` — that an entry replaces another one, and unrecorded.

## Main results

* `Handler.survey_fst` — the accounts change nothing about the walk.
* `length_of_written` — every entry adds one to the output or replaces another.
* `Handler.surveyed` — what the accounts say, mapping by mapping.
* `processCollection_accounts` — **what replaces another entry is recorded once, unless it holds a
  collection.**
-/

namespace KeyCall

/-- The record of an output key that is overwritten. -/
def Event.isOverwriting : Event → Bool
  | .overwritten _ _ => true
  | _ => false

/-- What a log says about overwritten keys. -/
def overwritings (log : List Event) : List Event := log.filter Event.isOverwriting

namespace Value

mutual

/-- The mappings in a value, each in front of those below it. -/
def mappings : Value → List (List (Value × Value))
  | .list xs => mappingsOfItems xs
  | .tuple xs => mappingsOfItems xs
  | .mapping _ es => es :: mappingsOfEntries es
  | _ => []

/-- The mappings in the items of a list. -/
def mappingsOfItems : List Value → List (List (Value × Value))
  | [] => []
  | x :: xs => mappings x ++ mappingsOfItems xs

/-- The mappings in what the entries of a mapping hold. -/
def mappingsOfEntries : List (Value × Value) → List (List (Value × Value))
  | [] => []
  | (_, v) :: es => mappings v ++ mappingsOfEntries es

end

theorem mappings_of_scalar {v : Value} (hv : v.isCollection = false) : v.mappings = [] := by
  cases v with
  | list xs => exact Bool.noConfusion hv
  | tuple xs => exact Bool.noConfusion hv
  | mapping kind es => exact Bool.noConfusion hv
  | _ => rfl

end Value

/-! ### Accounts -/

/-- The account of an entry: what the output held when its turn came, what it gave to be written,
and what was recorded as that was written. -/
structure Pass where
  entry : Value × Value
  before : List (Value × Value)
  given : Value × Value
  records : List Event

/-- The account of a mapping. -/
structure Visit where
  entries : List (Value × Value)
  output : List (Value × Value)
  passes : List Pass

namespace Pass

/-- The entry goes to a key that is in the output already. -/
def replaces (p : Pass) : Bool := Entries.has Value.sameKey p.before p.given.1

/-- The entry replaces another one, and nothing is recorded, since it holds a collection. -/
def isSilent (p : Pass) : Bool := p.replaces && p.entry.2.isCollection

end Pass

/-- The outputs from one entry to the next: each is what the one before it and the entry make. -/
def Written (out : List (Value × Value)) : List Pass → (output : List (Value × Value)) → Prop
  | [], output => output = out
  | p :: ps, output =>
    p.before = out ∧ Written (Value.putEntry out p.given.1 p.given.2) ps output

/-- What was recorded as the entries of a mapping were written. -/
def Visit.records (x : Visit) : List Event := x.passes.flatMap Pass.records

namespace Run

variable {σ α β : Type}

/-- A computation together with what it records. -/
def recorded (r : Run σ α) : Run σ (α × List Event) := fun s =>
  ((r.run s).1.map (·, (r.run s).2.log.drop s.log.length), (r.run s).2)

/-- The computation records no overwritten key. -/
def Quiet (r : Run σ α) : Prop := ∀ s, overwritings (r.run s).2.log = overwritings s.log

/-- What is recorded need not be looked at. -/
theorem recorded_bind (r : Run σ α) (f : α → Run σ β) :
    (r.recorded >>= fun x => f x.1) = r >>= f := by
  refine Run.ext fun s => ?_
  have hrun : r.recorded.run s =
      ((r.run s).1.map (·, (r.run s).2.log.drop s.log.length), (r.run s).2) := rfl
  rw [run_bind, run_bind, hrun]
  rcases r.run s with ⟨e | a, t⟩ <;> rfl

theorem bind_eq_ok {r : Run σ α} {f : α → Run σ β} {s s' : Stage σ} {b : β}
    (h : (r >>= f).run s = (.ok b, s')) :
    ∃ a t, r.run s = (.ok a, t) ∧ (f a).run t = (.ok b, s') := by
  rw [run_bind] at h
  rcases hr : r.run s with ⟨e | a, t⟩
  · rw [hr] at h
    cases h
  · rw [hr] at h
    exact ⟨a, t, rfl, h⟩

theorem exists_run_eq {r : Run σ α} {s : Stage σ} {a : α} (h : (r.run s).1 = .ok a) :
    ∃ s', r.run s = (.ok a, s') := ⟨_, Prod.ext h rfl⟩

theorem Quiet.pure (a : α) : (pure a : Run σ α).Quiet := fun _ => rfl

theorem Quiet.lift (x : Except Error α) : (Run.lift x : Run σ α).Quiet := fun _ => rfl

theorem Quiet.call (h : Host σ) (f : Value) (args : List Value) : (Run.call h f args).Quiet :=
  fun _ => rfl

theorem Quiet.record {e : Event} (he : e.isOverwriting = false) :
    (Run.record e : Run σ Unit).Quiet := by
  intro s
  rw [run_record, overwritings, List.filter_append, List.filter_cons_of_neg (by simp [he]),
    List.filter_nil, List.append_nil]
  rfl

theorem Quiet.bind {r : Run σ α} {f : α → Run σ β} (hr : r.Quiet) (hf : ∀ a, (f a).Quiet) :
    (r >>= f).Quiet := by
  intro s
  have hs := hr s
  rw [run_bind]
  rcases h : r.run s with ⟨e | a, t⟩ <;> rw [h] at hs
  · exact hs
  · exact (hf a t).trans hs

end Run

namespace Handler

variable {σ : Type}

/-- What an entry gives: the key of the output, and what is to stand there.  An entry that holds a
collection keeps its key, and gives what has become of the collection. -/
def give (h : Handler σ) (k v done : Value) : Run σ (Value × Value) :=
  if v.isCollection then pure (k, done) else h.process k v

/-- Writes what an entry gives onto the output. -/
def write {σ : Type} (k v : Value) (out : List (Value × Value)) (given : Value × Value) :
    Run σ (List (Value × Value)) := do
  if !v.isCollection && Entries.has Value.sameKey out given.1 then
    Run.record (.overwritten given.1 k)
  pure (Value.putEntry out given.1 given.2)

/-- **What is done with an entry**: what it holds is entered, then it gives something, and that is
written. -/
theorem processEntries_cons (h : Handler σ) (out : List (Value × Value)) (k v : Value)
    (es : List (Value × Value)) :
    h.processEntries out ((k, v) :: es) = (do
      let done ← h.processNested v
      let given ← h.give k v done
      let out ← write k v out given
      h.processEntries out es) := by
  rw [processEntries]
  by_cases hc : v.isCollection = true
  · simp [hc, give, write]
  · have hs : v.isCollection = false := by simpa using hc
    simp only [hs, processNested_of_scalar h hs, give, write, Bool.false_eq_true, if_false,
      Bool.not_false, Bool.true_and, LawfulMonad.pure_bind]
    refine bind_congr fun given => ?_
    split <;> rfl

/-- A write is recorded if it replaces another entry and the one that is written holds no
collection. -/
theorem run_write (k v : Value) (out : List (Value × Value)) (given : Value × Value) (s : Stage σ) :
    (write k v out given).run s = (.ok (Value.putEntry out given.1 given.2),
      ⟨s.state, s.log ++ if Entries.has Value.sameKey out given.1 && !v.isCollection then
        [.overwritten given.1 k] else []⟩) := by
  unfold write
  by_cases hw : (!v.isCollection && Entries.has Value.sameKey out given.1) = true
  · rw [if_pos hw, Bool.and_comm, if_pos hw]
    rfl
  · rw [if_neg hw, Bool.and_comm, if_neg hw, List.append_nil]
    rfl

theorem run_recorded_write (k v : Value) (out : List (Value × Value)) (given : Value × Value)
    (s : Stage σ) :
    ∃ records t,
      (write k v out given).recorded.run s =
          (.ok (Value.putEntry out given.1 given.2, records), t) ∧
        overwritings t.log = overwritings s.log ++ records ∧
        records = if Entries.has Value.sameKey out given.1 && !v.isCollection then
          [.overwritten given.1 k] else [] := by
  obtain ⟨records, hrecords⟩ : ∃ records, records =
      if Entries.has Value.sameKey out given.1 && !v.isCollection then
        [Event.overwritten given.1 k] else [] := ⟨_, rfl⟩
  have hwrite := run_write k v out given s
  rw [← hrecords] at hwrite
  refine ⟨records, ⟨s.state, s.log ++ records⟩, ?_, ?_, hrecords⟩
  · have hrun : (write k v out given).recorded.run s =
        (((write k v out given).run s).1.map
          (·, ((write k v out given).run s).2.log.drop s.log.length),
          ((write k v out given).run s).2) := rfl
    rw [hrun, hwrite]
    simp only [List.drop_left, Except.map]
  · -- Nothing else is recorded, so nothing is left out.
    rw [overwritings, List.filter_append]
    refine congrArg _ (List.filter_eq_self.2 fun e he => ?_)
    rw [hrecords] at he
    split at he
    · rw [List.mem_singleton.1 he]
      rfl
    · exact absurd he List.not_mem_nil

/-! ### The walk with its accounts -/

mutual

/-- Processes a value found in a collection, with the accounts of the mappings in it. -/
def survey (h : Handler σ) : Value → Run σ (Value × List Visit)
  | .list xs => do
    let items ← surveyItems h xs
    pure (.list items.1, items.2)
  | .tuple xs => do
    let items ← surveyItems h xs
    pure (.list items.1, items.2)
  | .mapping _ es => do
    let rest ← surveyEntries h [] es
    pure (.mapping .plain rest.1, ⟨es, rest.1, rest.2.1⟩ :: rest.2.2)
  | v => pure (v, [])

/-- Processes the items of a list, with the accounts of the mappings in them. -/
def surveyItems (h : Handler σ) : List Value → Run σ (List Value × List Visit)
  | [] => pure ([], [])
  | x :: xs => do
    let item ← survey h x
    let items ← surveyItems h xs
    pure (item.1 :: items.1, item.2 ++ items.2)

/-- Processes the entries of a mapping onto what is already in the output, with an account of each
and the accounts of the mappings in what they hold. -/
def surveyEntries (h : Handler σ) (out : List (Value × Value)) :
    List (Value × Value) → Run σ (List (Value × Value) × List Pass × List Visit)
  | [] => pure (out, [], [])
  | (k, v) :: es => do
    let done ← survey h v
    let given ← h.give k v done.1
    let written ← (write k v out given).recorded
    let rest ← surveyEntries h written.1 es
    pure (rest.1, ⟨(k, v), out, given, written.2⟩ :: rest.2.1, done.2 ++ rest.2.2)

end

theorem survey_of_scalar (h : Handler σ) {v : Value} (hv : v.isCollection = false) :
    h.survey v = pure (v, []) := by
  cases v with
  | list xs => exact Bool.noConfusion hv
  | tuple xs => exact Bool.noConfusion hv
  | mapping kind es => exact Bool.noConfusion hv
  | _ => rfl

/-- The accounts change nothing about the walk. -/
theorem survey_fst (h : Handler σ) :
    (∀ v, Prod.fst <$> h.survey v = h.processNested v) ∧
    (∀ xs, Prod.fst <$> h.surveyItems xs = h.processItems xs) ∧
    ∀ es out, Prod.fst <$> h.surveyEntries out es = h.processEntries out es := by
  refine Value.walk_induction ?list ?tuple ?mapping ?scalar ?noItem ?item ?noEntry ?entry
  case list =>
    intro xs ih
    rw [survey, processNested, ← ih]
    simp
  case tuple =>
    intro xs ih
    rw [survey, processNested, ← ih]
    simp
  case mapping =>
    intro kind es ih
    rw [survey, processNested, ← ih]
    simp
  case scalar =>
    intro v hv
    rw [survey_of_scalar h hv, processNested_of_scalar h hv]
    rfl
  case noItem => rfl
  case item =>
    intro x xs hx hxs
    rw [surveyItems, processItems, ← hx, ← hxs]
    simp
  case noEntry => exact fun out => rfl
  case entry =>
    intro k v es hv hes out
    have hrest : ∀ given, ((write k v out given).recorded >>= fun written =>
        Prod.fst <$> h.surveyEntries written.1 es) =
          write k v out given >>= (h.processEntries · es) := by
      intro given
      refine Eq.trans ?_ (Run.recorded_bind (write k v out given) (h.processEntries · es))
      exact bind_congr fun written => hes written.1
    rw [surveyEntries, processEntries_cons, ← hv]
    simp [hrest]

end Handler

/-! ### What the accounts say -/

/-- The account of an entry is right: the entry goes to the key that it resolves to, and its write
is recorded once if it replaces another entry and holds no collection, and otherwise not at all. -/
structure Pass.IsRight (p : Pass) : Prop where
  key : p.given.1 = resolvedKey p.entry.1 p.entry.2
  records : p.records =
    if p.replaces && !p.entry.2.isCollection then [.overwritten p.given.1 p.entry.1] else []

/-- The account of a mapping is right: there is one of each entry, and they lead from an empty
output to the one of the mapping. -/
structure Visit.IsRight (x : Visit) : Prop where
  entries : x.passes.map Pass.entry = x.entries
  written : Written [] x.passes x.output
  passes : ∀ p ∈ x.passes, p.IsRight

/-- **Every entry adds one to the output or replaces another.** -/
theorem length_of_written {out output : List (Value × Value)} {ps : List Pass}
    (h : Written out ps output) :
    out.length + ps.length = output.length + (ps.filter Pass.replaces).length := by
  induction ps generalizing out with
  | nil => rw [show output = out from h]; rfl
  | cons p ps ih =>
    obtain ⟨rfl, h⟩ := h
    have hlength := congrArg List.length
      (Entries.keys_put Value.sameKey p.before p.given.1 p.given.2)
    have hrest := ih h
    simp only [Entries.keys, List.length_map] at hlength
    rw [Value.putEntry, hlength] at hrest
    by_cases hp : p.replaces = true
    · have hhas : Entries.has Value.sameKey p.before p.given.1 = true := hp
      rw [if_pos hhas, List.length_map] at hrest
      rw [List.filter_cons_of_pos hp, List.length_cons, List.length_cons]
      omega
    · have hhas : ¬ Entries.has Value.sameKey p.before p.given.1 = true := hp
      rw [if_neg hhas, List.length_append, List.length_map, List.length_singleton] at hrest
      rw [List.filter_cons_of_neg hp, List.length_cons]
      omega

/-- What replaces another entry is recorded or silent. -/
theorem length_filter_replaces {ps : List Pass} (h : ∀ p ∈ ps, p.IsRight) :
    (ps.filter Pass.replaces).length =
      (ps.flatMap Pass.records).length + (ps.filter Pass.isSilent).length := by
  induction ps with
  | nil => rfl
  | cons p ps ih =>
    have hrest := ih fun q hq => h q (List.mem_cons_of_mem p hq)
    have hp := (h p List.mem_cons_self).records
    rw [List.flatMap_cons, List.length_append, hp]
    cases hr : p.replaces <;> cases hc : p.entry.2.isCollection <;>
      simp [Pass.isSilent, hr, hc, hrest] <;> omega

/-- The account of a mapping balances. -/
theorem Visit.IsRight.length_entries {x : Visit} (h : x.IsRight) :
    x.entries.length =
      x.output.length + x.records.length + (x.passes.filter Pass.isSilent).length := by
  have hwritten := length_of_written h.written
  have hreplaces := length_filter_replaces h.passes
  rw [← h.entries, List.length_map, Visit.records]
  simp only [List.length_nil, Nat.zero_add] at hwritten
  omega

/-- What the accounts of a walk say: there is one for each mapping, all are right, and what the log
says about overwritten keys is what the accounts have, besides what was recorded for the mapping
that the walk is in. -/
structure Surveyed {σ : Type} (mappings : List (List (Value × Value))) (visits : List Visit)
    (own : List Event) (s s' : Stage σ) : Prop where
  entries : visits.map Visit.entries = mappings
  right : ∀ x ∈ visits, x.IsRight
  log : (overwritings s'.log).Perm
    (overwritings s.log ++ (own ++ visits.flatMap Visit.records))

namespace Surveyed

variable {σ : Type} {ms ms' : List (List (Value × Value))} {visits visits' : List Visit}
  {own own' : List Event} {s t s' : Stage σ}

/-- A step that meets no mapping. -/
theorem of_log (h : overwritings s'.log = overwritings s.log ++ own) : Surveyed [] [] own s s' where
  entries := rfl
  right x hx := absurd hx List.not_mem_nil
  log := by rw [h, List.flatMap_nil, List.append_nil]

theorem append (h : Surveyed ms visits own s t) (h' : Surveyed ms' visits' own' t s') :
    Surveyed (ms ++ ms') (visits ++ visits') (own ++ own') s s' where
  entries := by rw [List.map_append, h.entries, h'.entries]
  right x hx := (List.mem_append.1 hx).elim (h.right x) (h'.right x)
  log := by
    have hlog := h.log
    have hlog' := h'.log
    simp only [← Multiset.coe_eq_coe, ← Multiset.coe_add, List.flatMap_append] at hlog hlog' ⊢
    rw [hlog', hlog]
    abel

/-- A mapping that is done has what was recorded for it in its account. -/
theorem close {es output : List (Value × Value)} {passes : List Pass}
    (h : Surveyed ms visits (passes.flatMap Pass.records) s s')
    (hx : (⟨es, output, passes⟩ : Visit).IsRight) :
    Surveyed (es :: ms) (⟨es, output, passes⟩ :: visits) [] s s' where
  entries := by rw [List.map_cons, h.entries]
  right := List.forall_mem_cons.2 ⟨hx, h.right⟩
  log := h.log

end Surveyed

namespace Handler

variable {σ : Type} {h : Handler σ}

/-- The handler records no overwritten key itself. -/
def IsQuiet (h : Handler σ) : Prop := ∀ key t value, (h key t value).Quiet

/-- An entry that holds a scalar goes to the key that it resolves to. -/
theorem key_of_process {k v : Value} (hv : v.isCollection = false) {given : Value × Value}
    {s s' : Stage σ} (hrun : (h.process k v).run s = (.ok given, s')) :
    given.1 = resolvedKey k v := by
  cases hk : templateText? k with
  | none =>
    rw [process_of_not_template _ _ (templateText?_eq_none_iff.1 hk)] at hrun
    cases hrun
    rw [resolvedKey, hv, hk]
    rfl
  | some text =>
    obtain ⟨rfl, htext⟩ := eq_text_of_templateText?_eq_some hk
    rw [process_of_template _ _ htext] at hrun
    obtain ⟨t, s₁, ht, hrun⟩ := Run.bind_eq_ok hrun
    obtain ⟨w, s₂, -, hrun⟩ := Run.bind_eq_ok hrun
    cases hrun
    have hmatch : Template.match? text = some t := by
      rw [Run.run_lift, Template.parse] at ht
      split at ht
      · next t' hmatch =>
        cases ht
        exact hmatch
      · cases ht
    rw [resolvedKey, hv, hk, Option.bind_some, hmatch]
    rfl

theorem IsQuiet.process (hq : h.IsQuiet) (k v : Value) : (h.process k v).Quiet := by
  unfold Handler.process
  split
  · split
    · exact (Run.Quiet.lift _).bind fun t => (hq _ t v).bind fun w => Run.Quiet.pure _
    · exact Run.Quiet.pure _
  · exact Run.Quiet.pure _

/-- An entry goes to the key that it resolves to. -/
theorem key_of_give (hq : h.IsQuiet) {k v done : Value} {given : Value × Value} {s s' : Stage σ}
    (hrun : (h.give k v done).run s = (.ok given, s')) :
    overwritings s'.log = overwritings s.log ∧ given.1 = resolvedKey k v := by
  unfold give at hrun
  by_cases hc : v.isCollection = true
  · rw [if_pos hc] at hrun
    cases hrun
    exact ⟨rfl, (Value.resolvedKey_of_collection k hc).symm⟩
  · rw [if_neg hc] at hrun
    have hlog := hq.process k v s
    rw [hrun] at hlog
    exact ⟨hlog, key_of_process (by simpa using hc) hrun⟩

/-- **What the accounts of a walk say.** -/
theorem surveyed (hq : h.IsQuiet) :
    (∀ v s r s', (h.survey v).run s = (.ok r, s') → Surveyed v.mappings r.2 [] s s') ∧
    (∀ xs s r s', (h.surveyItems xs).run s = (.ok r, s') →
      Surveyed (Value.mappingsOfItems xs) r.2 [] s s') ∧
    ∀ es out s r s', (h.surveyEntries out es).run s = (.ok r, s') →
      Surveyed (Value.mappingsOfEntries es) r.2.2 (r.2.1.flatMap Pass.records) s s' ∧
        r.2.1.map Pass.entry = es ∧ Written out r.2.1 r.1 ∧ ∀ p ∈ r.2.1, p.IsRight := by
  refine Value.walk_induction ?list ?tuple ?mapping ?scalar ?noItem ?item ?noEntry ?entry
  case list =>
    intro xs ih s r s' hrun
    obtain ⟨items, t, hitems, hrun⟩ := Run.bind_eq_ok hrun
    cases hrun
    exact ih s items s' hitems
  case tuple =>
    intro xs ih s r s' hrun
    obtain ⟨items, t, hitems, hrun⟩ := Run.bind_eq_ok hrun
    cases hrun
    exact ih s items s' hitems
  case mapping =>
    intro kind es ih s r s' hrun
    obtain ⟨rest, t, hrest, hrun⟩ := Run.bind_eq_ok hrun
    cases hrun
    obtain ⟨hsurvey, hentries, hwritten, hpasses⟩ := ih [] s rest s' hrest
    exact hsurvey.close ⟨hentries, hwritten, hpasses⟩
  case scalar =>
    intro v hv s r s' hrun
    rw [survey_of_scalar h hv] at hrun
    cases hrun
    rw [Value.mappings_of_scalar hv]
    exact .of_log (List.append_nil _).symm
  case noItem =>
    intro s r s' hrun
    cases hrun
    exact .of_log (List.append_nil _).symm
  case item =>
    intro x xs hx hxs s r s' hrun
    obtain ⟨item, t, hitem, hrun⟩ := Run.bind_eq_ok hrun
    obtain ⟨items, t', hitems, hrun⟩ := Run.bind_eq_ok hrun
    cases hrun
    exact (hx s item t hitem).append (hxs t items s' hitems)
  case noEntry =>
    intro out s r s' hrun
    cases hrun
    exact ⟨.of_log (List.append_nil _).symm, rfl, rfl, fun p hp => absurd hp List.not_mem_nil⟩
  case entry =>
    intro k v es hv hes out s r s' hrun
    rw [surveyEntries] at hrun
    obtain ⟨done, s₁, hdone, hrun⟩ := Run.bind_eq_ok hrun
    obtain ⟨given, s₂, hgiven, hrun⟩ := Run.bind_eq_ok hrun
    obtain ⟨written, s₃, hwrite, hrun⟩ := Run.bind_eq_ok hrun
    obtain ⟨rest, s₄, hrest, hrun⟩ := Run.bind_eq_ok hrun
    cases hrun
    obtain ⟨hquiet, hkey⟩ := key_of_give hq hgiven
    obtain ⟨records, s₃', hrun, hlog, hrecords⟩ := run_recorded_write k v out given s₂
    rw [hrun] at hwrite
    cases hwrite
    obtain ⟨hsurvey, hentries, hwritten, hpasses⟩ := hes _ s₃ rest s' hrest
    have hown : Surveyed [] [] records s₁ s₃ := .of_log (by rw [hlog, hquiet])
    refine ⟨(hv s done s₁ hdone).append (hown.append hsurvey), ?_, ⟨rfl, hwritten⟩, ?_⟩
    · rw [List.map_cons, hentries]
    · exact List.forall_mem_cons.2 ⟨⟨hkey, hrecords⟩, hpasses⟩

end Handler

/-- A dispatcher records the calls that it makes, and no overwritten key. -/
theorem Dispatcher.isQuiet_handler {σ : Type} (d : Dispatcher σ) : d.handler.IsQuiet := by
  intro key t value
  change (d.invoke t value).Quiet
  unfold invoke
  cases t.invocation with
  | function =>
    refine (Run.Quiet.lift _).bind fun f => (Run.Quiet.record rfl).bind fun _ => ?_
    exact Run.Quiet.call _ _ _
  | static c =>
    refine (Run.Quiet.lift _).bind fun c => (Run.Quiet.lift _).bind fun f => ?_
    exact (Run.Quiet.record rfl).bind fun _ => Run.Quiet.call _ _ _
  | presenter c raw =>
    refine (Run.Quiet.lift _).bind fun c => (Run.Quiet.call _ _ _).bind fun model => ?_
    refine (Run.Quiet.lift _).bind fun pairs => (Run.Quiet.lift _).bind fun model => ?_
    refine (Run.Quiet.lift _).bind fun p => (Run.Quiet.call _ _ _).bind fun presenter => ?_
    refine (Run.Quiet.lift _).bind fun f => (Run.Quiet.record rfl).bind fun _ => ?_
    exact Run.Quiet.call _ _ _

/-- The walk gives what it gives with the accounts, and leaves the same stage behind. -/
theorem Handler.exists_survey {σ : Type} (h : Handler σ) {v o : Value} {s s' : Stage σ}
    (hrun : (h.processNested v).run s = (.ok o, s')) :
    ∃ visits, (h.survey v).run s = (.ok (o, visits), s') := by
  rw [← h.survey_fst.1 v] at hrun
  obtain ⟨⟨o', visits⟩, t, hsurvey, hpure⟩ :=
    Run.bind_eq_ok (r := h.survey v) (f := fun r => pure r.1) hrun
  cases hpure
  exact ⟨visits, hsurvey⟩

/-- **What replaces another entry is recorded once, unless it holds a collection.**  Every mapping
of a collection is visited.  Its entries go one after the other to the keys that they resolve to,
and the number of them is that of the entries of the output, of the records that they make, and of
the entries that replace others silently, which all hold collections.  The log has these records and
no others of their kind. -/
theorem processCollection_accounts {σ : Type} (d : Dispatcher σ) {c o : Value}
    (hc : c.isCollection = true) {s s' : Stage σ}
    (ho : (d.processCollection c).run s = (.ok o, s')) :
    ∃ visits,
      (d.handler.survey c).run s = (.ok (o, visits), s') ∧
      visits.map Visit.entries = c.mappings ∧
      (∀ x ∈ visits,
        x.IsRight ∧
          x.entries.length =
            x.output.length + x.records.length + (x.passes.filter Pass.isSilent).length ∧
          (x.entries.length = x.output.length + x.records.length ↔
            ∀ p ∈ x.passes, p.replaces = true → p.entry.2.isCollection = false)) ∧
      (overwritings s'.log).Perm (overwritings s.log ++ visits.flatMap Visit.records) := by
  change (d.handler.processCollection c).run s = (.ok o, s') at ho
  rw [d.handler.processCollection_eq_processNested hc] at ho
  obtain ⟨visits, hsurvey⟩ := d.handler.exists_survey ho
  obtain ⟨hentries, hright, hlog⟩ := (Handler.surveyed d.isQuiet_handler).1 c s _ s' hsurvey
  refine ⟨visits, hsurvey, hentries, fun x hx => ⟨hright x hx, (hright x hx).length_entries, ?_⟩,
    hlog⟩
  have hnone : (x.passes.filter Pass.isSilent).length = 0 ↔
      ∀ p ∈ x.passes, p.replaces = true → p.entry.2.isCollection = false := by
    simp [Pass.isSilent, List.filter_eq_nil_iff]
  rw [← hnone, (hright x hx).length_entries]
  omega

/-- The list replaces the answer to a template, and nothing is recorded.  The second template
replaces a plain entry, which is recorded. -/
theorem processCollection_accounts_of_collision :
    let o : Value := .mapping .plain
      [(.text "a", .int 2),
        (.text "b", .list [.text "$\x7bgo()\x7d:x", .mapping .plain [(.text "y", .int 1)]])]
    collidingRow.isCollection = true ∧
      ((countingDispatcher.processCollection collidingRow).run ⟨0, []⟩).1 = .ok o ∧
      ∃ visits : List Visit, visits.map Visit.entries = collidingRow.mappings ∧
        visits.map (fun x => (x.entries.length, x.output.length, x.records.length)) =
          [(4, 2, 1), (1, 1, 0)] ∧
        ∃ x ∈ visits, ¬ ∀ p ∈ x.passes, p.replaces = true → p.entry.2.isCollection = false := by
  intro o
  have ho : ((countingDispatcher.processCollection collidingRow).run ⟨0, []⟩).1 = .ok o := by cbv
  have hlengths : ((countingDispatcher.handler.survey collidingRow).run ⟨0, []⟩).1.map
      (fun r => r.2.map fun x => (x.entries.length, x.output.length, x.records.length)) =
        .ok [(4, 2, 1), (1, 1, 0)] := by cbv
  obtain ⟨s', hrun⟩ := Run.exists_run_eq ho
  obtain ⟨visits, hsurvey, hentries, hvisits, -⟩ :=
    processCollection_accounts countingDispatcher (c := collidingRow) rfl hrun
  rw [hsurvey] at hlengths
  have hmap := Except.ok.inj hlengths
  refine ⟨rfl, ho, visits, hentries, hmap, ?_⟩
  -- The account of the row does not balance without the list.
  obtain ⟨x, rest, rfl, hx, -⟩ := List.map_eq_cons_iff.1 hmap
  refine ⟨x, List.mem_cons_self, fun hall => ?_⟩
  have hbalance := (hvisits x List.mem_cons_self).2.2.2 hall
  simp only [Prod.mk.injEq] at hx
  omega

end KeyCall
