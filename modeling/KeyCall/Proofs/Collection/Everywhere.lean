import KeyCall.Proofs.Collection.Meaning

/-!
# What holds everywhere in a value

A property holds everywhere in a value if it holds of the value, of the items of its lists and
tuples, and of the values of its mappings, at any depth.  What a property says about the keys of a
mapping it says about the mapping.

A collection is usual everywhere if all of its mappings are plain and none of them holds a key
twice.  Unless a template is over a scalar somewhere in it, processing such a collection gives it
back, with lists for tuples.

## Main definitions

* `Value.Everywhere` — a property holds at any depth.
* `Value.IsUsual` — not a mapping of an unusual kind.
* `Value.listed` — a value with lists in the place of its tuples.

## Main results

* `Handler.processNested_of_noTemplates` — **without templates, usual collections stay as they are.**
-/

namespace KeyCall
namespace Value

variable {P Q : Value → Prop}

/-- The property holds of the value and of everything in it, at any depth. -/
inductive Everywhere (P : Value → Prop) : Value → Prop
  | scalar {v : Value} (hv : v.isCollection = false) (h : P v) : Everywhere P v
  | list {xs : List Value} (h : P (.list xs)) (items : ∀ x ∈ xs, Everywhere P x) :
      Everywhere P (.list xs)
  | tuple {xs : List Value} (h : P (.tuple xs)) (items : ∀ x ∈ xs, Everywhere P x) :
      Everywhere P (.tuple xs)
  | mapping {kind : MappingKind} {es : List (Value × Value)} (h : P (.mapping kind es))
      (values : ∀ e ∈ es, Everywhere P e.2) : Everywhere P (.mapping kind es)

namespace Everywhere

theorem here {v : Value} (h : Everywhere P v) : P v := by
  cases h with
  | scalar hv h => exact h
  | list h items => exact h
  | tuple h items => exact h
  | mapping h values => exact h

theorem of_list {xs : List Value} (h : Everywhere P (.list xs)) : ∀ x ∈ xs, Everywhere P x := by
  cases h with
  | scalar hv h => cases hv
  | list h items => exact items

theorem of_tuple {xs : List Value} (h : Everywhere P (.tuple xs)) :
    ∀ x ∈ xs, Everywhere P x := by
  cases h with
  | scalar hv h => cases hv
  | tuple h items => exact items

theorem of_mapping {kind : MappingKind} {es : List (Value × Value)}
    (h : Everywhere P (.mapping kind es)) : ∀ e ∈ es, Everywhere P e.2 := by
  cases h with
  | scalar hv h => cases hv
  | mapping h values => exact values

theorem list_iff {xs : List Value} :
    Everywhere P (.list xs) ↔ P (.list xs) ∧ ∀ x ∈ xs, Everywhere P x :=
  ⟨fun h => ⟨h.here, h.of_list⟩, fun h => .list h.1 h.2⟩

theorem tuple_iff {xs : List Value} :
    Everywhere P (.tuple xs) ↔ P (.tuple xs) ∧ ∀ x ∈ xs, Everywhere P x :=
  ⟨fun h => ⟨h.here, h.of_tuple⟩, fun h => .tuple h.1 h.2⟩

theorem mapping_iff {kind : MappingKind} {es : List (Value × Value)} :
    Everywhere P (.mapping kind es) ↔ P (.mapping kind es) ∧ ∀ e ∈ es, Everywhere P e.2 :=
  ⟨fun h => ⟨h.here, h.of_mapping⟩, fun h => .mapping h.1 h.2⟩

theorem scalar_iff {v : Value} (hv : v.isCollection = false) : Everywhere P v ↔ P v :=
  ⟨here, .scalar hv⟩

theorem mono {v : Value} (h : Everywhere P v) (himp : ∀ v, P v → Q v) : Everywhere Q v := by
  induction h with
  | scalar hv h => exact .scalar hv (himp _ h)
  | list h items ih => exact .list (himp _ h) ih
  | tuple h items ih => exact .tuple (himp _ h) ih
  | mapping h values ih => exact .mapping (himp _ h) ih

end Everywhere

/-! ### Usual collections -/

/-- Not a mapping, unless it is plain and holds no key twice. -/
def IsUsual : Value → Prop
  | .mapping kind es => kind = .plain ∧ Entries.KeysApart sameKey es
  | _ => True

mutual

/-- A value with lists in the place of its tuples. -/
def listed : Value → Value
  | .list xs => .list (listedItems xs)
  | .tuple xs => .list (listedItems xs)
  | .mapping kind es => .mapping kind (listedEntries es)
  | v => v

/-- Items with lists in the place of their tuples. -/
def listedItems : List Value → List Value
  | [] => []
  | x :: xs => listed x :: listedItems xs

/-- Entries with lists in the place of the tuples in their values. -/
def listedEntries : List (Value × Value) → List (Value × Value)
  | [] => []
  | (k, v) :: es => (k, listed v) :: listedEntries es

end

theorem everywhere_isUsual_of_scalar {v : Value} (hv : v.isCollection = false) :
    v.Everywhere IsUsual := by
  refine .scalar hv ?_
  cases v with
  | mapping kind es => cases hv
  | _ => trivial

theorem listed_of_scalar {v : Value} (hv : v.isCollection = false) : v.listed = v := by
  cases v with
  | list xs => cases hv
  | tuple xs => cases hv
  | mapping kind es => cases hv
  | _ => rfl

end Value

/-! ### Collections without templates -/

theorem isTemplateKey_of_templateTexts_singleton {k v : Value} (h : templateTexts [(k, v)] = []) :
    isTemplateKey k = false := by
  rw [templateTexts_singleton] at h
  cases htext : templateText? k with
  | none => exact templateText?_eq_none_iff.1 htext
  | some text =>
    rw [htext] at h
    cases h

/-- **Without templates, usual collections stay as they are**, but for their tuples.  A template that
is over a nested collection is none. -/
theorem Handler.processNested_of_noTemplates {σ : Type} (h : Handler σ) :
    (∀ v : Value, v.Everywhere Value.IsUsual → templateTexts v.scalarEntries = [] →
      h.processNested v = pure v.listed) ∧
    (∀ xs : List Value, (∀ x ∈ xs, x.Everywhere Value.IsUsual) →
      templateTexts (Value.scalarEntriesOfItems xs) = [] →
      h.processItems xs = pure (Value.listedItems xs)) ∧
    ∀ es : List (Value × Value), (∀ e ∈ es, e.2.Everywhere Value.IsUsual) →
      templateTexts (Value.scalarEntriesOfEntries es) = [] →
      ∀ out, Entries.KeysApart Value.sameKey (out ++ es) →
        h.processEntries out es = pure (out ++ Value.listedEntries es) := by
  apply Value.walk_induction
  case list =>
    intro xs ih husual hnone
    rw [Handler.processNested, ih husual.of_list hnone, pure_bind, Value.listed]
  case tuple =>
    intro xs ih husual hnone
    rw [Handler.processNested, ih husual.of_tuple hnone, pure_bind, Value.listed]
  case mapping =>
    intro kind es ih husual hnone
    obtain ⟨rfl, hapart⟩ := husual.here
    rw [Handler.processNested, ih husual.of_mapping hnone [] hapart, pure_bind, Value.listed,
      List.nil_append]
  case scalar =>
    intro v hv _ _
    rw [Handler.processNested_of_scalar h hv, Value.listed_of_scalar hv]
  case noItem => exact fun _ _ => rfl
  case item =>
    intro x xs ihx ihxs husual hnone
    obtain ⟨hx, hxs⟩ := List.forall_mem_cons.1 husual
    rw [Value.scalarEntriesOfItems, templateTexts_append, List.append_eq_nil_iff] at hnone
    rw [Handler.processItems, ihx hx hnone.1, pure_bind, ihxs hxs hnone.2, pure_bind,
      Value.listedItems]
  case noEntry =>
    intro _ _ out _
    rw [Value.listedEntries, List.append_nil]
    rfl
  case entry =>
    intro k v es ihv ihes husual hnone out hapart
    obtain ⟨hv, hes⟩ := List.forall_mem_cons.1 husual
    rw [Value.scalarEntriesOfEntries_cons, templateTexts_append, List.append_eq_nil_iff] at hnone
    -- No key of the output is that of the entry, so the entry is appended and nothing overwritten.
    have hnew : Entries.has Value.sameKey out k = false :=
      Entries.has_eq_false_iff.2 fun e he =>
        (Entries.keysApart_append.1 hapart).2.2 e he (k, v) List.mem_cons_self
    have hput : Value.putEntry out k v.listed = out ++ [(k, v.listed)] :=
      Entries.put_of_has_eq_false hnew _
    have hnext : Entries.KeysApart Value.sameKey (out ++ [(k, v.listed)] ++ es) := by
      simpa [Entries.KeysApart, Entries.keys] using hapart
    have hmove : out ++ (k, v.listed) :: Value.listedEntries es =
        out ++ [(k, v.listed)] ++ Value.listedEntries es := by simp
    rw [Handler.processEntries, Value.listedEntries, hmove]
    by_cases hc : v.isCollection = true
    · rw [Value.scalarEntriesOfEntry_of_collection k hc] at hnone
      rw [if_pos hc, ihv hv hnone.1, pure_bind, hput]
      exact ihes hes hnone.2 _ hnext
    · have hs : v.isCollection = false := by simpa using hc
      rw [Value.scalarEntriesOfEntry_of_scalar k hs] at hnone
      have hk : isTemplateKey k = false := isTemplateKey_of_templateTexts_singleton hnone.1
      rw [Value.listed_of_scalar hs] at hput hnext ⊢
      rw [if_neg hc, Handler.process_of_not_template h v hk, pure_bind]
      simp only [hnew, hput]
      exact ihes hes hnone.2 _ hnext

end KeyCall
