import KeyCall.Collection

/-!
# The walk and its scalar entries

Processing and validation are two walks over a collection, written apart.  What they have in common
is `Value.scalarEntries`: both meet these entries, in this order, and do nothing else that could
tell two collections apart.  For validation that is an equation.  For processing it is a principle:
a relation between runs that the steps of a walk preserve, and that holds for what is done with each
scalar entry, holds for the whole walk.

## Main definitions

* `templateText?`, `templateEntries`, `templateTexts` — the templates among keys and entries.
* `IsReadable` — a template that can be read with its property list.
* `Value.IsIterable` — what can be walked at the top.
* `WalkRelation` — a relation between runs that the steps of a walk preserve.

## Main results

* `Value.walk_induction` — induction along the walk.
* `validateCollection_eq_ok_iff` — what validation accepts, and what it gives.
* `WalkRelation.processCollection` — **a walk is related to another if their entries are.**
-/

namespace KeyCall

/-! ### What a result comes from -/

section

variable {ε α β : Type} {x : Except ε α} {b : β}

theorem exists_of_map_eq_ok {f : α → β} (h : x.map f = .ok b) : ∃ a, x = .ok a ∧ f a = b := by
  cases x with
  | error e => cases h
  | ok a => exact ⟨a, rfl, Except.ok.inj h⟩

theorem exists_of_bind_eq_ok {f : α → Except ε β} (h : x >>= f = .ok b) :
    ∃ a, x = .ok a ∧ f a = .ok b := by
  cases x with
  | error e => cases h
  | ok a => exact ⟨a, rfl, h⟩

end

namespace Value

/-- Induction along the walk: over what collections hold, but not over what scalars hold. -/
theorem walk_induction {P : Value → Prop} {Q : List Value → Prop}
    {R : List (Value × Value) → Prop}
    (list : ∀ xs, Q xs → P (.list xs)) (tuple : ∀ xs, Q xs → P (.tuple xs))
    (mapping : ∀ kind es, R es → P (.mapping kind es))
    (scalar : ∀ v, v.isCollection = false → P v)
    (noItem : Q []) (item : ∀ x xs, P x → Q xs → Q (x :: xs))
    (noEntry : R []) (entry : ∀ k v es, P v → R es → R ((k, v) :: es)) :
    (∀ v, P v) ∧ (∀ xs, Q xs) ∧ ∀ es, R es := by
  have h := scalarEntries.mutual_induct P R Q list tuple mapping (fun v hl ht hm => ?_)
    noItem item noEntry entry
  · exact ⟨h.1, h.2.2, h.2.1⟩
  · refine scalar v ?_
    cases v with
    | list xs => exact absurd rfl fun e => hl xs e
    | tuple xs => exact absurd rfl fun e => ht xs e
    | mapping kind es => exact absurd rfl fun e => hm kind es e
    | _ => rfl

theorem scalarEntries_of_scalar {v : Value} (h : v.isCollection = false) :
    v.scalarEntries = [] := by
  cases v with
  | list xs => exact Bool.noConfusion h
  | tuple xs => exact Bool.noConfusion h
  | mapping kind es => exact Bool.noConfusion h
  | _ => rfl

theorem scalarEntriesOfItems_of_scalars {xs : List Value} (h : ∀ x ∈ xs, x.isCollection = false) :
    scalarEntriesOfItems xs = [] := by
  induction xs with
  | nil => rfl
  | cons x xs ih =>
    rw [scalarEntriesOfItems, scalarEntries_of_scalar (h x List.mem_cons_self),
      ih fun y hy => h y (List.mem_cons_of_mem _ hy), List.append_nil]

/-- What can be walked at the top: a collection, a text or a string of bytes. -/
def IsIterable (c : Value) : Prop := c.isMapping = true ∨ ∃ xs, c.items? = some xs

/-- What is taken item by item has the scalar entries of its items. -/
theorem scalarEntries_of_items {c : Value} {xs : List Value} (h : c.items? = some xs) :
    c.scalarEntries = scalarEntriesOfItems xs := by
  cases c with
  | list ys => cases h; rfl
  | tuple ys => cases h; rfl
  | text s =>
    cases h
    refine (scalarEntriesOfItems_of_scalars fun x hx => ?_).symm
    obtain ⟨p, -, rfl⟩ := List.mem_map.1 hx
    rfl
  | bytes bs =>
    cases h
    refine (scalarEntriesOfItems_of_scalars fun x hx => ?_).symm
    obtain ⟨b, -, rfl⟩ := List.mem_map.1 hx
    rfl
  | _ => cases h

end Value

/-! ### Validation -/

/-- The text of a key that is a template. -/
def templateText? : Value → Option String
  | .text s => if isTemplateText s then some s else none
  | _ => none

theorem eq_text_of_templateText?_eq_some {key : Value} {s : String}
    (h : templateText? key = some s) : key = .text s ∧ isTemplateText s = true := by
  cases key with
  | text s' =>
    by_cases hs : isTemplateText s' = true
    · simp only [templateText?, hs, if_true, Option.some.injEq] at h
      exact ⟨congrArg Value.text h, h ▸ hs⟩
    · simp [templateText?, hs] at h
  | _ => cases h

theorem templateText?_eq_none_iff {key : Value} :
    templateText? key = none ↔ isTemplateKey key = false := by
  cases key with
  | text s => by_cases hs : isTemplateText s = true <;> simp [templateText?, isTemplateKey, hs]
  | _ => simp [templateText?, isTemplateKey]

/-- The templates among entries, each with the value under it. -/
def templateEntries (es : List (Value × Value)) : List (String × Value) :=
  es.filterMap fun e => (templateText? e.1).map (·, e.2)

/-- The templates among the keys of entries. -/
def templateTexts (es : List (Value × Value)) : List String := (templateEntries es).map Prod.fst

/-- The template can be read, and its property list too. -/
def IsReadable (s : String) : Prop := ∃ t ps, Template.parse s = .ok t ∧ t.pairs = .ok ps

theorem templateEntries_append (es fs : List (Value × Value)) :
    templateEntries (es ++ fs) = templateEntries es ++ templateEntries fs :=
  List.filterMap_append ..

theorem templateTexts_append (es fs : List (Value × Value)) :
    templateTexts (es ++ fs) = templateTexts es ++ templateTexts fs := by
  rw [templateTexts, templateEntries_append, List.map_append, templateTexts, templateTexts]

theorem templateEntries_singleton (k v : Value) :
    templateEntries [(k, v)] = ((templateText? k).map (·, v)).toList := by
  cases h : templateText? k <;> simp [templateEntries, h]

theorem templateTexts_singleton (k v : Value) :
    templateTexts [(k, v)] = (templateText? k).toList := by
  rw [templateTexts, templateEntries_singleton]
  cases templateText? k <;> rfl

theorem checkKey_eq_ok_iff {key : Value} {found : Option String} :
    checkKey key = .ok found ↔
      (∀ s ∈ templateText? key, IsReadable s) ∧ found = templateText? key := by
  cases key with
  | text s =>
    by_cases hs : isTemplateText s = true
    · simp only [checkKey, templateText?, hs, if_true, Option.mem_def, Option.some.injEq,
        forall_eq', IsReadable]
      cases ht : Template.parse s with
      | error e => simp [bind, Except.bind]
      | ok t =>
        cases hp : t.pairs with
        | error e => simp [bind, Except.bind, hp]
        | ok ps => simp [bind, Except.bind, hp, eq_comm]
    · simp [checkKey, templateText?, hs, eq_comm]
  | _ => simp [checkKey, templateText?, eq_comm]

/-- What a list of texts has to be for validation to give it. -/
def Validated (es : List (Value × Value)) (found : List String) : Prop :=
  (∀ s ∈ templateTexts es, IsReadable s) ∧ found = templateTexts es

/-- Two validations in a row give the templates of both lists of entries. -/
theorem bind_eq_ok_iff_validated {es fs : List (Value × Value)} {r q : Except Error (List String)}
    (hr : ∀ found, r = .ok found ↔ Validated es found)
    (hq : ∀ found, q = .ok found ↔ Validated fs found) (found : List String) :
    (do let a ← r; let b ← q; .ok (a ++ b) : Except Error (List String)) = .ok found ↔
      Validated (es ++ fs) found := by
  simp only [Validated, templateTexts_append, List.mem_append, or_imp, forall_and]
  constructor
  · intro h
    obtain ⟨a, ha, h⟩ := exists_of_bind_eq_ok h
    obtain ⟨b, hb, h⟩ := exists_of_bind_eq_ok h
    cases h
    obtain ⟨h₁, rfl⟩ := (hr a).1 ha
    obtain ⟨h₂, rfl⟩ := (hq b).1 hb
    exact ⟨⟨h₁, h₂⟩, rfl⟩
  · rintro ⟨⟨h₁, h₂⟩, rfl⟩
    rw [(hr _).2 ⟨h₁, rfl⟩, (hq _).2 ⟨h₂, rfl⟩]
    rfl

theorem checkKey_toList_eq_ok_iff {k v : Value} (found : List String) :
    (checkKey k).map Option.toList = .ok found ↔ Validated [(k, v)] found := by
  rw [Validated, templateTexts_singleton]
  constructor
  · intro h
    cases hk : checkKey k with
    | error e => rw [hk] at h; cases h
    | ok a =>
      rw [hk] at h
      cases h
      obtain ⟨hread, rfl⟩ := checkKey_eq_ok_iff.1 hk
      exact ⟨by simpa using hread, rfl⟩
  · rintro ⟨hread, rfl⟩
    rw [checkKey_eq_ok_iff.2 ⟨by simpa using hread, rfl⟩]
    rfl

theorem validateNested_of_scalar {v : Value} (h : v.isCollection = false) :
    validateNested v = .ok [] := by
  cases v with
  | list xs => exact Bool.noConfusion h
  | tuple xs => exact Bool.noConfusion h
  | mapping kind es => exact Bool.noConfusion h
  | _ => rfl

/-- Validation accepts what can be read, and gives the templates in the order of the walk. -/
theorem validate_eq_ok_iff :
    (∀ v found, validateNested v = .ok found ↔ Validated v.scalarEntries found) ∧
    (∀ xs found, validateItems xs = .ok found ↔
      Validated (Value.scalarEntriesOfItems xs) found) ∧
    ∀ es found, validateEntries es = .ok found ↔
      Validated (Value.scalarEntriesOfEntries es) found := by
  have hnil : ∀ found, (.ok [] : Except Error (List String)) = .ok found ↔ Validated [] found :=
    fun found => by simp [Validated, templateTexts, templateEntries, eq_comm]
  -- The three walks of validation follow the induction case by case.
  refine Value.walk_induction (P := fun v => ∀ found, _ ↔ _) (Q := fun xs => ∀ found, _ ↔ _)
    (R := fun es => ∀ found, _ ↔ _) ?list ?tuple ?mapping ?scalar ?noItem ?item ?noEntry ?entry
  case list =>
    intro xs ih
    rw [validateNested, Value.scalarEntries]
    exact ih
  case tuple =>
    intro xs ih
    rw [validateNested, Value.scalarEntries]
    exact ih
  case mapping =>
    intro kind es ih
    rw [validateNested, Value.scalarEntries]
    exact ih
  case scalar =>
    intro v hv
    rw [Value.scalarEntries_of_scalar hv, validateNested_of_scalar hv]
    exact hnil
  case noItem =>
    rw [validateItems, Value.scalarEntriesOfItems]
    exact hnil
  case item =>
    intro x xs hx hxs
    rw [validateItems, Value.scalarEntriesOfItems]
    exact bind_eq_ok_iff_validated hx hxs
  case noEntry =>
    rw [validateEntries, Value.scalarEntriesOfEntries]
    exact hnil
  case entry =>
    intro k v es hv hes
    rw [validateEntries, Value.scalarEntriesOfEntries]
    by_cases hc : v.isCollection = true
    · rw [if_pos hc, if_pos hc]
      exact bind_eq_ok_iff_validated hv hes
    · -- An entry that holds a scalar is checked for itself.
      rw [if_neg hc, if_neg hc]
      refine fun found => Iff.trans (Eq.to_iff ?_)
        (bind_eq_ok_iff_validated (checkKey_toList_eq_ok_iff (v := v)) hes found)
      cases checkKey k <;> rfl

/-- **Validation accepts a collection if it can be walked and all its templates can be read, and
gives them in the order of the walk.** -/
theorem validateCollection_eq_ok_iff {c : Value} {found : List String} :
    validateCollection c = .ok found ↔ c.IsIterable ∧ Validated c.scalarEntries found := by
  unfold validateCollection
  by_cases hm : c.isMapping = true
  · rw [if_pos hm, validate_eq_ok_iff.1 c found]
    exact (and_iff_right (Or.inl hm)).symm
  · rw [if_neg hm]
    cases hi : c.items? with
    | none => simp [Value.IsIterable, hm, hi]
    | some xs =>
      rw [validate_eq_ok_iff.2.1 xs found, Value.scalarEntries_of_items hi]
      exact (and_iff_right (Or.inr ⟨xs, hi⟩)).symm

/-! ### Processing -/

theorem Handler.processNested_of_scalar {σ : Type} (h : Handler σ) {v : Value}
    (hv : v.isCollection = false) : h.processNested v = pure v := by
  cases v with
  | list xs => exact Bool.noConfusion hv
  | tuple xs => exact Bool.noConfusion hv
  | mapping kind es => exact Bool.noConfusion hv
  | _ => rfl

/-- A relation between runs that the steps of a walk preserve.  Each pair of runs is related along
the scalar entries that are met while they run. -/
structure WalkRelation {σ τ : Type}
    (K : (α : Type) → List (Value × Value) → Run σ α → Run τ α → Prop) : Prop where
  /-- Giving the same value meets no entry. -/
  pure {α : Type} (a : α) : K α [] (pure a) (pure a)
  /-- Recording the same event meets no entry. -/
  record (e : Event) : K Unit [] (Run.record e) (Run.record e)
  /-- One run after another meets the entries of both. -/
  bind {α β : Type} {es fs : List (Value × Value)} {r : Run σ α} {r' : Run τ α}
    {f : α → Run σ β} {f' : α → Run τ β} :
    K α es r r' → (∀ a, K β fs (f a) (f' a)) → K β (es ++ fs) (r >>= f) (r' >>= f')

namespace WalkRelation

variable {σ τ : Type} {K : (α : Type) → List (Value × Value) → Run σ α → Run τ α → Prop}
variable {h : Handler σ} {h' : Handler τ}

/-- What follows a run may meet no further entry. -/
theorem bind_nil (hK : WalkRelation K) {α β : Type} {es : List (Value × Value)} {r : Run σ α}
    {r' : Run τ α} {f : α → Run σ β} {f' : α → Run τ β} (hr : K α es r r')
    (hf : ∀ a, K β [] (f a) (f' a)) : K β es (r >>= f) (r' >>= f') := by
  have := hK.bind hr hf
  rwa [List.append_nil] at this

/-- The walks below the top are related if their entries are. -/
theorem processNested (hK : WalkRelation K) :
    (∀ v, (∀ e ∈ v.scalarEntries, K _ [e] (h.process e.1 e.2) (h'.process e.1 e.2)) →
      K _ v.scalarEntries (h.processNested v) (h'.processNested v)) ∧
    (∀ xs, (∀ e ∈ Value.scalarEntriesOfItems xs,
        K _ [e] (h.process e.1 e.2) (h'.process e.1 e.2)) →
      K _ (Value.scalarEntriesOfItems xs) (h.processItems xs) (h'.processItems xs)) ∧
    ∀ es, (∀ e ∈ Value.scalarEntriesOfEntries es,
        K _ [e] (h.process e.1 e.2) (h'.process e.1 e.2)) →
      ∀ out, K _ (Value.scalarEntriesOfEntries es) (h.processEntries out es)
        (h'.processEntries out es) := by
  refine Value.walk_induction ?list ?tuple ?mapping ?scalar ?noItem ?item ?noEntry ?entry
  case list =>
    intro xs ih he
    exact hK.bind_nil (ih he) fun ys => hK.pure _
  case tuple =>
    intro xs ih he
    exact hK.bind_nil (ih he) fun ys => hK.pure _
  case mapping =>
    intro kind es ih he
    exact hK.bind_nil (ih he []) fun out => hK.pure _
  case scalar =>
    intro v hv _
    rw [Value.scalarEntries_of_scalar hv, Handler.processNested_of_scalar h hv,
      Handler.processNested_of_scalar h' hv]
    exact hK.pure v
  case noItem => exact fun _ => hK.pure _
  case item =>
    intro x xs hx hxs he
    rw [Value.scalarEntriesOfItems] at he ⊢
    refine hK.bind (hx fun e hm => he e (List.mem_append_left _ hm)) fun y => ?_
    exact hK.bind_nil (hxs fun e hm => he e (List.mem_append_right _ hm)) fun ys => hK.pure _
  case noEntry => exact fun _ out => hK.pure _
  case entry =>
    intro k v es hv hes he out
    rw [Value.scalarEntriesOfEntries] at he ⊢
    have hrest := hes fun e hm => he e (List.mem_append_right _ hm)
    rw [Handler.processEntries, Handler.processEntries]
    by_cases hc : v.isCollection = true
    · simp only [hc, if_true] at he ⊢
      exact hK.bind (hv fun e hm => he e (List.mem_append_left _ hm)) fun w => hrest _
    · simp only [hc] at he ⊢
      refine hK.bind (he (k, v) (List.mem_append_left _ List.mem_cons_self)) fun o => ?_
      obtain ⟨k', w⟩ := o
      -- Whether the overwriting is recorded depends on the output alone, which is the same in both.
      by_cases ho : Entries.has Value.sameKey out k' = true
      · simp only [ho, if_true]
        exact hK.bind (hK.record _) fun _ => hrest _
      · simp only [ho]
        exact hrest _

/-- **Two walks over a collection are related if what they do with each scalar entry is.** -/
theorem processCollection (hK : WalkRelation K) {c : Value} (hc : c.IsIterable)
    (he : ∀ e ∈ c.scalarEntries, K _ [e] (h.process e.1 e.2) (h'.process e.1 e.2)) :
    K _ c.scalarEntries (h.processCollection c) (h'.processCollection c) := by
  unfold Handler.processCollection
  by_cases hm : c.isMapping = true
  · rw [if_pos hm, if_pos hm]
    exact hK.processNested.1 c he
  · obtain ⟨xs, hi⟩ := hc.resolve_left hm
    rw [if_neg hm, if_neg hm, hi]
    rw [Value.scalarEntries_of_items hi] at he ⊢
    exact hK.bind_nil (hK.processNested.2.1 xs he) fun ys => hK.pure _

end WalkRelation
end KeyCall
