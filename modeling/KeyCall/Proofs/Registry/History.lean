import KeyCall.Kit.Catalogue
import KeyCall.Proofs.Registry.Change
import KeyCall.Session
import Mathlib.Data.List.Induction
import Mathlib.Data.List.Nodup

/-!
# What registries remember

A registry is what was done to it.  A registration is in force until its name is removed, or all
names are, and a name may have several registrations in force: the latest of them decides what the
name stands for, and the oldest which place it has among the names.  Registrations that fail have
never been made.

Registrations are named by their places in the list of all changes that were made to one registry.
A session has two registries, and a change of the one is no part of the history of the other.

## Main definitions

* `InForce` — a registration whose name was not removed since.
* `Latest`, `Since` — the latest registration of a name in force, and the oldest.
* `Registry.Records` — the registry holds what the changes left in force.
* `Session.change`, `Session.changed` — one change made in a session, and many.

## Main results

* `inForce_concat` — what one more change does to what is in force.
* `Registry.Records.after` — every change keeps the record.
* `Session.records_changed` — after any changes, each registry has the record of its own.
* `Session.registries_record_history` — **registries hold the registrations in force.**
-/

namespace KeyCall

/-! ### Registrations in force -/

/-- The change at place `i` registered the target under the name, and the name was not removed
since. -/
def InForce (made : List Change) (n : String) (i : Nat) (t : Value) : Prop :=
  (∃ c, made[i]? = some c ∧ c.Registers n t) ∧ ∀ j c, i < j → made[j]? = some c → ¬ c.Ends n

/-- The latest registration of the name in force is at place `i`. -/
def Latest (made : List Change) (n : String) (i : Nat) (t : Value) : Prop :=
  InForce made n i t ∧ ∀ j t', InForce made n j t' → j ≤ i

/-- The oldest registration of the name in force is at place `i`. -/
def Since (made : List Change) (n : String) (i : Nat) : Prop :=
  (∃ t, InForce made n i t) ∧ ∀ j t, InForce made n j t → i ≤ j

section InForce

variable {made : List Change} {c : Change} {n : String} {i : Nat} {t : Value}

theorem made_concat {d : Change} :
    (made ++ [c])[i]? = some d ↔ made[i]? = some d ∨ i = made.length ∧ c = d := by
  grind

theorem InForce.lt_length (h : InForce made n i t) : i < made.length := by
  obtain ⟨⟨c, hc, -⟩, -⟩ := h
  exact (List.getElem?_eq_some_iff.1 hc).1

theorem not_inForce_nil : ¬ InForce [] n i t := fun h => absurd h.lt_length (Nat.not_lt_zero i)

/-- **One more change ends the registrations that it removes, and is in force itself if it is a
registration.** -/
theorem inForce_concat :
    InForce (made ++ [c]) n i t ↔
      InForce made n i t ∧ ¬ c.Ends n ∨ i = made.length ∧ c.Registers n t := by
  constructor
  · rintro ⟨⟨d, hd, hreg⟩, hfree⟩
    have hold : ∀ j e, i < j → made[j]? = some e → ¬ e.Ends n :=
      fun j e hij he => hfree j e hij (made_concat.2 (.inl he))
    rcases made_concat.1 hd with hd | ⟨rfl, rfl⟩
    · have hi : i < made.length := (List.getElem?_eq_some_iff.1 hd).1
      exact .inl ⟨⟨⟨d, hd, hreg⟩, hold⟩, hfree _ c hi (made_concat.2 (.inr ⟨rfl, rfl⟩))⟩
    · exact .inr ⟨rfl, hreg⟩
  · rintro (⟨⟨⟨d, hd, hreg⟩, hfree⟩, hc⟩ | ⟨rfl, hreg⟩)
    · refine ⟨⟨d, made_concat.2 (.inl hd), hreg⟩, fun j e hij he => ?_⟩
      rcases made_concat.1 he with he | ⟨-, rfl⟩
      · exact hfree j e hij he
      · exact hc
    · refine ⟨⟨c, made_concat.2 (.inr ⟨rfl, rfl⟩), hreg⟩, fun j e hij he => ?_⟩
      rcases made_concat.1 he with he | ⟨rfl, -⟩
      · have hj := (List.getElem?_eq_some_iff.1 he).1
        omega
      · omega

/-- A change that removes a name leaves nothing of it in force. -/
theorem not_inForce_of_ends (hc : c.Ends n) : ¬ InForce (made ++ [c]) n i t := by
  intro h
  rcases inForce_concat.1 h with ⟨-, hfree⟩ | ⟨-, hreg⟩
  · exact hfree hc
  · exact Change.not_ends_of_registers hreg n hc

/-- A registration is the latest of its name. -/
theorem latest_of_registers (hc : c.Registers n t) {u : Value} :
    (∃ i, Latest (made ++ [c]) n i u) ↔ u = t := by
  have hforce : InForce (made ++ [c]) n made.length t := inForce_concat.2 (.inr ⟨rfl, hc⟩)
  constructor
  · rintro ⟨i, hu, hlatest⟩
    have hle : made.length ≤ i := hlatest _ _ hforce
    rcases inForce_concat.1 hu with ⟨hold, -⟩ | ⟨-, hreg⟩
    · exact absurd hold.lt_length (by omega)
    · exact ((Change.registers_iff hc).1 hreg).2
  · rintro rfl
    refine ⟨made.length, hforce, fun j t' hj => ?_⟩
    have hlt := hj.lt_length
    rw [List.length_append, List.length_singleton] at hlt
    omega

/-- A change that is about other names leaves a name alone. -/
theorem inForce_of_apart (hreg : ∀ u, ¬ c.Registers n u) (hends : ¬ c.Ends n) :
    InForce (made ++ [c]) n i t ↔ InForce made n i t := by
  rw [inForce_concat]
  simp [hreg, hends]

theorem latest_of_apart (hreg : ∀ u, ¬ c.Registers n u) (hends : ¬ c.Ends n) :
    Latest (made ++ [c]) n i t ↔ Latest made n i t := by
  unfold Latest
  simp only [inForce_of_apart hreg hends]

/-- As long as a name is not removed, it is there since its oldest registration. -/
theorem Since.of_concat (h : Since (made ++ [c]) n i) (hn : ∃ j u, InForce made n j u) :
    Since made n i := by
  obtain ⟨⟨t, ht⟩, holdest⟩ := h
  obtain ⟨j, u, hu⟩ := hn
  have hends : ¬ c.Ends n := fun hc => not_inForce_of_ends hc ht
  have hkeep : ∀ j u, InForce made n j u → InForce (made ++ [c]) n j u :=
    fun j u hu => inForce_concat.2 (.inl ⟨hu, hends⟩)
  rcases inForce_concat.1 ht with ⟨hold, -⟩ | ⟨rfl, -⟩
  · exact ⟨⟨t, hold⟩, fun j u hu => holdest j u (hkeep j u hu)⟩
  · have hle := holdest j u (hkeep j u hu)
    exact absurd hu.lt_length (by omega)

/-- If any registration of a name is in force, then there is a latest one. -/
theorem exists_latest (h : ∃ i t, InForce made n i t) : ∃ t i, Latest made n i t := by
  induction made using List.reverseRecOn with
  | nil =>
    obtain ⟨i, t, ht⟩ := h
    exact absurd ht not_inForce_nil
  | append_singleton made c ih =>
    obtain ⟨i, t, ht⟩ := h
    have hends : ¬ c.Ends n := fun hc => not_inForce_of_ends hc ht
    by_cases hc : ∃ u, c.Registers n u
    · obtain ⟨u, hu⟩ := hc
      exact ⟨u, (latest_of_registers hu).2 rfl⟩
    · have hreg : ∀ u, ¬ c.Registers n u := not_exists.1 hc
      obtain ⟨u, j, hj⟩ := ih ⟨i, t, (inForce_of_apart hreg hends).1 ht⟩
      exact ⟨u, j, (latest_of_apart hreg hends).2 hj⟩

end InForce

/-! ### What holds of a registry -/

/-- The one name is there since before the other. -/
def Before (made : List Change) (n m : String) : Prop :=
  ∀ i j, Since made n i → Since made m j → i < j

namespace Registry

variable {r : Registry} {made : List Change} {c : Change} {n : String} {t : Value}

/-- The registry holds what the changes left in force, and in the order in which the names came. -/
structure Records (r : Registry) (made : List Change) : Prop where
  callable : ∀ e ∈ r.entries, e.2.isCallable = true
  nodup : r.names.Nodup
  latest : ∀ n t, r.stored? n = some t ↔ ∃ i, Latest made n i t
  order : r.names.Pairwise (Before made)

theorem Records.mem_names (h : r.Records made) : n ∈ r.names ↔ ∃ i t, InForce made n i t := by
  rw [Registry.mem_names, ← stored?_isSome, Option.isSome_iff_exists]
  constructor
  · rintro ⟨t, ht⟩
    obtain ⟨i, hi, -⟩ := (h.latest n t).1 ht
    exact ⟨i, t, hi⟩
  · intro hforce
    obtain ⟨t, ht⟩ := exists_latest hforce
    exact ⟨t, (h.latest n t).2 ht⟩

/-- The order of names that stay is the order that they had. -/
theorem Records.order_concat (h : r.Records made) {names : List String}
    (hsub : names.Sublist r.names) : names.Pairwise (Before (made ++ [c])) := by
  refine (h.order.sublist hsub).imp_of_mem fun {n m} hn hm hbefore i j hi hj => ?_
  have hforce : ∀ {n}, n ∈ names → ∃ i t, InForce made n i t :=
    fun hn => h.mem_names.1 (hsub.subset hn)
  exact hbefore i j (hi.of_concat (hforce hn)) (hj.of_concat (hforce hm))

theorem records_empty : Records .empty [] where
  callable := nofun
  nodup := List.nodup_nil
  latest _ _ := ⟨nofun, fun ⟨_, hi, _⟩ => absurd hi not_inForce_nil⟩
  order := List.Pairwise.nil

/-- A change that fails is of no account. -/
theorem Records.of_raises (h : r.Records made) (hc : c.Raises) : r.Records (made ++ [c]) where
  callable := h.callable
  nodup := h.nodup
  latest n t := by
    have hreg : ∀ u, ¬ c.Registers n u := fun u hu => Change.not_raises_of_registers hu hc
    simp only [latest_of_apart hreg (Change.not_ends_of_raises hc n), h.latest n t]
  order := h.order_concat (List.Sublist.refl _)

theorem Records.insert (h : r.Records made) (hc : c.Registers n t) :
    (r.insert n t).Records (made ++ [c]) where
  callable e he := by
    rcases Entries.mem_put he with he | he
    · exact h.callable e he
    · rw [he]
      exact Change.isCallable_of_registers hc
  nodup := by
    rw [names_insert]
    split
    case isTrue => exact h.nodup
    case isFalse hn =>
      rw [← Registry.mem_names] at hn
      rw [← List.concat_eq_append]
      exact h.nodup.concat hn
  latest m u := by
    rw [stored?_insert]
    split
    case isTrue hm =>
      rw [hm, latest_of_registers hc, Option.some.injEq, eq_comm]
    case isFalse hm =>
      have hreg : ∀ u, ¬ c.Registers m u := fun u hu => hm ((Change.registers_iff hc).1 hu).1
      simp only [latest_of_apart hreg (Change.not_ends_of_registers hc m), h.latest m u]
  order := by
    have hold := h.order_concat (c := c) (List.Sublist.refl r.names)
    rw [names_insert]
    split
    case isTrue => exact hold
    case isFalse hn =>
      rw [← Registry.mem_names, h.mem_names] at hn
      refine List.pairwise_append.2 ⟨hold, List.pairwise_singleton _ _, ?_⟩
      intro m hm n' hn' i j hi hj
      rw [List.mem_singleton.1 hn'] at hj
      -- The name is new: its oldest registration is the last change.
      have hlast : j = made.length := by
        obtain ⟨⟨u, hu⟩, -⟩ := hj
        rcases inForce_concat.1 hu with ⟨hu, -⟩ | ⟨hj, -⟩
        · exact absurd ⟨j, u, hu⟩ hn
        · exact hj
      obtain ⟨⟨u, hu⟩, -⟩ := hi.of_concat (h.mem_names.1 hm)
      rw [hlast]
      exact hu.lt_length

theorem Records.unregister (h : r.Records made) (n : String) :
    (r.unregister n).Records (made ++ [.unregister n]) where
  callable e he := h.callable e (List.mem_filter.1 he).1
  nodup := by
    rw [names_unregister]
    exact h.nodup.filter _
  latest m u := by
    rw [stored?_unregister]
    split
    case isTrue hm =>
      exact ⟨nofun, fun ⟨_, hi, _⟩ => absurd hi (not_inForce_of_ends hm)⟩
    case isFalse hm =>
      have hreg : ∀ u, ¬ (Change.unregister n).Registers m u := fun _ => id
      simp only [latest_of_apart hreg hm, h.latest m u]
  order := by
    rw [names_unregister]
    exact h.order_concat List.filter_sublist

theorem records_clear (r : Registry) (made : List Change) : r.clear.Records (made ++ [.clear]) where
  callable := nofun
  nodup := List.nodup_nil
  latest _ _ := ⟨nofun, fun ⟨_, hi, _⟩ => absurd hi (not_inForce_of_ends trivial)⟩
  order := List.Pairwise.nil

/-- The registry after a change, which stays as it is if the change fails. -/
def after (r : Registry) (c : Change) : Registry :=
  match r.change c with
  | .ok (r', _) => r'
  | .error _ => r

/-- **Every change keeps the record.** -/
theorem Records.after (h : r.Records made) (c : Change) : (r.after c).Records (made ++ [c]) := by
  unfold Registry.after
  rcases c.exhausted with ⟨n, t, hc⟩ | hc | ⟨n, rfl⟩ | rfl
  · rw [change_of_registers hc]
    exact h.insert hc
  · obtain ⟨e, he⟩ := change_of_raises hc r
    rw [he]
    exact h.of_raises hc
  · exact h.unregister n
  · exact records_clear r made

/-- What a name stands for is never null. -/
theorem Records.get?_eq_stored? (h : r.Records made) (n : String) : r.get? n = r.stored? n := by
  refine Option.ext fun t => get?_eq_some_iff.trans ⟨And.left, fun ht => ⟨ht, ?_⟩⟩
  obtain ⟨e, he, rfl⟩ := Option.map_eq_some_iff.1 ht
  have hcall := h.callable e (List.mem_of_find?_eq_some he)
  intro hnull
  rw [hnull] at hcall
  cases hcall

end Registry

/-! ### Sessions -/

/-- What the one who makes a change gets back. -/
def Change.reply : Change → Reply
  | .registerAs _ target => .value target
  | _ => .done

/-- The change that a command makes, and of which registry. -/
def Command.change? : Command → Option (Scope × Change)
  | .register .own name target => some (.own, .register (name.getD "") target)
  | .register .shared name target =>
    match target with
    | .null => none
    | _ => some (.shared, .registerAs name target)
  | .registerAs scope name target => some (scope, .registerAs name target)
  | .unregister scope name => some (scope, .unregister name)
  | .clear scope => some (scope, .clear)
  | _ => none

/-- The changes of one registry among the changes of two. -/
def changesIn (scope : Scope) (steps : List (Scope × Change)) : List Change :=
  (steps.filter (·.1 == scope)).map Prod.snd

theorem changesIn_concat (scope : Scope) (steps : List (Scope × Change)) (scope' : Scope)
    (c : Change) :
    changesIn scope (steps ++ [(scope', c)]) =
      if scope' = scope then changesIn scope steps ++ [c] else changesIn scope steps := by
  rw [changesIn, List.filter_append, List.map_append, List.filter_singleton]
  by_cases hscope : scope' = scope
  · simp [hscope, changesIn]
  · simp [hscope, changesIn, beq_false_of_ne hscope]

namespace Session

variable {σ : Type} {s : Session σ} {scope : Scope} {c : Change} {n : String} {t : Value}

/-- Changes a registry of the session. -/
def change (s : Session σ) (scope : Scope) (c : Change) : Except Error Reply × Session σ :=
  s.update scope c.reply ((s.registries.get scope).change c)

/-- The session after changes, of which some may have failed. -/
def changed (s : Session σ) (steps : List (Scope × Change)) : Session σ :=
  steps.foldl (fun s step => (s.change step.1 step.2).2) s

/-- **A command that changes a registry does that and no more.** -/
theorem perform_of_change? (h : Host σ) (disk : Disk) {command : Command}
    (hc : command.change? = some (scope, c)) : s.perform h disk command = s.change scope c := by
  cases command with
  | register scope' name target =>
    cases scope' with
    | own => cases hc; rfl
    | shared => cases target <;> cases hc <;> rfl
  | registerAs => cases hc; rfl
  | unregister => cases hc; rfl
  | clear => cases hc; rfl
  | _ => cases hc

theorem change_of_raises (hc : c.Raises) (s : Session σ) (scope : Scope) :
    ∃ e, s.change scope c = (.error e, s) := by
  obtain ⟨e, he⟩ := Registry.change_of_raises hc (s.registries.get scope)
  exact ⟨e, by rw [change, he, update]⟩

theorem change_of_not_raises (hc : ¬ c.Raises) (s : Session σ) (scope : Scope) :
    (s.change scope c).1 = .ok c.reply := by
  rcases c.exhausted with ⟨n, t, hreg⟩ | hraises | ⟨n, rfl⟩ | rfl
  · rw [change, Registry.change_of_registers hreg, update]
  · exact absurd hraises hc
  · rfl
  · rfl

/-- What a registration records is that the name is taken. -/
theorem stage_change_of_registers (hc : c.Registers n t) (s : Session σ) (scope : Scope) :
    (s.change scope c).2.stage =
      { s.stage with
        log := s.stage.log ++
          if (s.registries.get scope).contains n then [.replacing n] else [] } := by
  rw [change, Registry.change_of_registers hc, update]

theorem stage_change_of_not_registers (hc : ∀ n t, ¬ c.Registers n t) (s : Session σ)
    (scope : Scope) : (s.change scope c).2.stage = s.stage := by
  rcases c.exhausted with ⟨n, t, hreg⟩ | hraises | ⟨n, rfl⟩ | rfl
  · exact absurd hreg (hc n t)
  · obtain ⟨e, he⟩ := change_of_raises hraises s scope
    rw [he]
  · exact congrArg (Stage.mk s.stage.state) (List.append_nil _)
  · exact congrArg (Stage.mk s.stage.state) (List.append_nil _)

theorem get_change (s : Session σ) (scope scope' : Scope) (c : Change) :
    (s.change scope' c).2.registries.get scope =
      if scope' = scope then (s.registries.get scope).after c else s.registries.get scope := by
  unfold change update Registry.after
  by_cases hscope : scope' = scope
  · subst hscope
    rw [if_pos rfl]
    cases (s.registries.get scope').change c with
    | error e => rfl
    | ok changed => exact Registries.get_set _ _ _
  · rw [if_neg hscope]
    cases (s.registries.get scope').change c with
    | error e => rfl
    | ok changed => exact Registries.get_set_of_ne _ _ (Ne.symm hscope)

theorem changed_concat (s : Session σ) (steps : List (Scope × Change)) (scope : Scope)
    (c : Change) :
    s.changed (steps ++ [(scope, c)]) = ((s.changed steps).change scope c).2 := by
  rw [changed, List.foldl_append]
  rfl

/-- **After any changes, each registry has the record of its own.** -/
theorem records_changed (s : Session σ) (hs : s.registries = {}) (steps : List (Scope × Change))
    (scope : Scope) :
    ((s.changed steps).registries.get scope).Records (changesIn scope steps) := by
  induction steps using List.reverseRecOn with
  | nil =>
    rw [changed, List.foldl_nil, hs]
    cases scope <;> exact Registry.records_empty
  | append_singleton steps step ih =>
    obtain ⟨scope', c⟩ := step
    rw [changed_concat, get_change, changesIn_concat]
    split
    case isTrue => exact ih.after c
    case isFalse => exact ih

/-- **Registries hold the registrations in force.**  After any changes of two registries that had no
names, in each of them every target can be called and the names are distinct.  A name stands for the
target of its latest registration in force, and there is none for it exactly if none is in force;
having the name, giving its target and resolving it come to the same.  The names are in the order of
their oldest registrations in force.  A change fails exactly if its target cannot be called, or no
name is given and it has none; it leaves everything as it was.  That a name is replaced is recorded,
and nothing else is.  Commands make these changes. -/
theorem registries_record_history {σ : Type} (h : Host σ) (disk : Disk) (stage : Stage σ)
    (steps : List (Scope × Change)) (scope : Scope) :
    let s : Session σ := changed { stage } steps
    let r := s.registries.get scope
    let made := changesIn scope steps
    (∀ e ∈ r.entries, e.2.isCallable = true) ∧
      (r.names.Nodup ∧ r.size = r.names.length) ∧
      (∀ n t, r.get? n = some t ↔ ∃ i, Latest made n i t) ∧
      (∀ n, r.get? n = none ↔ ∀ i t, ¬ InForce made n i t) ∧
      (∀ n role, (r.contains n = true ↔ (r.get? n).isSome = true) ∧
        (r.contains n = true ↔ ∃ t, r.resolve role n = .ok t)) ∧
      ((∀ n, n ∈ r.names ↔ ∃ i t, InForce made n i t) ∧ r.names.Pairwise (Before made)) ∧
      (∀ c, ((∃ e, (s.change scope c).1 = .error e) ↔ c.Raises) ∧
        (c.Raises → (s.change scope c).2 = s)) ∧
      (∀ c n t, c.Registers n t →
        ((s.change scope c).2.registries.get scope).names =
            (if n ∈ r.names then r.names else r.names ++ [n]) ∧
          (s.change scope c).2.stage =
            { s.stage with log := s.stage.log ++ if n ∈ r.names then [.replacing n] else [] }) ∧
      (∀ c, (∀ n t, ¬ c.Registers n t) → (s.change scope c).2.stage = s.stage) ∧
      ∀ command c, Command.change? command = some (scope, c) →
        s.perform h disk command = s.change scope c := by
  intro s r made
  have hrec : r.Records made := records_changed { stage } rfl steps scope
  have hget : ∀ n t, r.get? n = some t ↔ ∃ i, Latest made n i t := by
    intro n t
    rw [hrec.get?_eq_stored?, hrec.latest]
  have hthere : ∀ n, r.contains n = true ↔ (r.get? n).isSome = true := by
    intro n
    rw [hrec.get?_eq_stored?, r.stored?_isSome]
  have hmem : ∀ n, n ∈ r.names ↔ r.contains n = true := fun n => Registry.mem_names
  have hraises : ∀ c, c.Raises → (s.change scope c).2 = s := by
    intro c hc
    obtain ⟨e, he⟩ := change_of_raises hc s scope
    rw [he]
  refine ⟨hrec.callable, ⟨hrec.nodup, (List.length_map _).symm⟩, hget, fun n => ?_,
    fun n role => ⟨hthere n, ?_⟩, ⟨fun n => hrec.mem_names, hrec.order⟩,
    fun c => ⟨⟨?_, fun hc => ?_⟩, hraises c⟩, fun c n t hc => ⟨?_, ?_⟩,
    fun c hc => stage_change_of_not_registers hc s scope,
    fun command c hc => perform_of_change? h disk hc⟩
  · rw [← Option.not_isSome_iff_eq_none, ← hthere, ← hmem, hrec.mem_names]
    simp only [not_exists]
  · rw [hthere, Option.isSome_iff_exists]
    simp only [Registry.resolve_eq_ok_iff]
  · rintro ⟨e, he⟩
    by_contra hc
    rw [change_of_not_raises hc] at he
    cases he
  · obtain ⟨e, he⟩ := change_of_raises hc s scope
    exact ⟨e, by rw [he]⟩
  · rw [get_change, if_pos rfl, Registry.after, Registry.change_of_registers hc]
    simp only [Registry.names_insert, hmem, r]
  · rw [stage_change_of_registers hc]
    simp only [hmem, r]

/-- Of three registrations of one name the last is in force, and the name comes after one that was
registered in between.  Two changes fail, and one is of the other registry. -/
theorem registries_record_history_of_kit :
    let function (name : String) := (Kit.functionEntry name).2
    let shouter : Value := .target ⟨"shouter", .callable "Shouter"⟩ []
    let steps : List (Scope × Change) :=
      [(.own, .register "a" (function "echo")), (.own, .registerAs none (function "pair")),
        (.own, .register "a" (function "count")), (.own, .register "b" (.int 42)),
        (.shared, .registerAs (some "a") shouter), (.own, .unregister "a"),
        (.own, .registerAs (some "") shouter), (.own, .registerAs (some "a") (function "none"))]
    let s : Session Kit.State := changed { stage := ⟨{}, []⟩ } steps
    let again : Change := .register "pair" (function "echo")
    s.registries.own.names = ["pair", "a"] ∧ s.stage.log = [.replacing "a"] ∧
      (∃ i, Latest (changesIn .own steps) "a" i (function "none")) ∧
      again.Registers "pair" (function "echo") ∧
      (s.change .own again).2.registries.own.names = ["pair", "a"] ∧
      (Change.registerAs (some "") shouter).Raises ∧
      (s.change .own (.registerAs (some "") shouter)).2 = s := by
  intro function shouter steps s again
  have hnames : s.registries.own.names = ["pair", "a"] := by rfl
  obtain ⟨-, -, hget, -, -, -, hraises, hregisters, -⟩ :=
    registries_record_history Kit.host ⟨"", []⟩ ⟨{}, []⟩ steps .own
  have hagain : again.Registers "pair" (function "echo") := ⟨rfl, rfl, rfl⟩
  have hshouter : (Change.registerAs (some "") shouter).Raises := .inr ⟨.inr rfl, rfl⟩
  refine ⟨hnames, rfl, (hget "a" _).1 rfl, hagain, ?_, hshouter, (hraises _).2 hshouter⟩
  exact (hregisters _ _ _ hagain).1.trans (if_pos (List.mem_cons_self))

end Session

end KeyCall
