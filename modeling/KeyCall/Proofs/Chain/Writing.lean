import KeyCall.Chain

/-!
# Writing along paths

A value is written along a path in two steps: the path is split, and the attribute that it starts
with is set.  Each step has its own ways to fail.  Splitting fails on an empty segment whatever the
target is.  Setting fails where the target has no attributes or its class refuses one, and on an
open target it does not fail at all, so that there the path alone decides.

## Main definitions

* `Chain.IsPath` — no segment is empty.
* `Value.guardedBy?` — the class that is asked when an attribute is set.
* `Value.IsOpen` — every attribute can be set.

## Main results

* `Chain.extend_error` — why a value cannot be written along a path.
* `Chain.extend_of_isOpen` — along a path a value can be written into an open target.
-/

namespace KeyCall

/-- The class that is asked when an attribute of a value is set, if there is one. -/
def Value.guardedBy? : Value → Option String
  | .object c _ => some c
  | _ => none

/-- A value on which every attribute can be set: a mapping, an open record, or an object of a class
that refuses no field. -/
def Value.IsOpen (guard : Chain.Guard) : Value → Prop
  | .mapping _ _ => True
  | .record _ => True
  | .object c _ => ∀ name, guard c name = none
  | _ => False

namespace Chain

variable {guard : Guard} {target value : Value} {path name : String}

/-! ### Splitting -/

/-- The text is a path: no segment is empty once the blanks around it are gone. -/
def IsPath (path : String) : Prop := ∀ s ∈ trimmedSegments path, s ≠ []

instance : DecidablePred IsPath := fun path =>
  inferInstanceAs (Decidable (∀ s ∈ trimmedSegments path, s ≠ []))

theorem split_of_isPath (h : IsPath path) :
    split path = .ok ((trimmedSegments path).map String.ofList) :=
  (split_eq_ok_iff path _).2 ⟨h, rfl⟩

theorem split_error {e : Error} (h : split path = .error e) : e = .badPath path := by
  unfold split at h
  simp only at h
  split at h
  · exact (Except.error.inj h).symm
  · cases h

theorem split_of_not_isPath (h : ¬ IsPath path) : split path = .error (.badPath path) := by
  cases hs : split path with
  | error e => rw [split_error hs]
  | ok names => exact absurd ((split_eq_ok_iff path names).1 hs).1 h

/-! ### Setting an attribute -/

/-- An attribute cannot be set because the value has none, or because its class refuses it. -/
theorem assign_error {e : Error} (h : assign guard target name value = .error e) :
    (∃ holder, e = .noAttribute holder name) ∨
      ∃ c, target.guardedBy? = some c ∧ guard c name = some e := by
  cases target with
  | mapping kind es => cases h
  | record fs => cases h
  | object c fs =>
    simp only [assign] at h
    cases hg : guard c name with
    | none => rw [hg] at h; cases h
    | some e' =>
      rw [hg] at h
      cases h
      exact Or.inr ⟨c, rfl, hg⟩
  | _ =>
    simp only [assign, Except.error.injEq] at h
    exact Or.inl ⟨_, h.symm⟩

/-- Setting an attribute leaves a value with its class. -/
theorem guardedBy?_of_assign {target' : Value} (h : assign guard target name value = .ok target') :
    target'.guardedBy? = target.guardedBy? := by
  cases target with
  | mapping kind es => cases h; rfl
  | record fs => cases h; rfl
  | object c fs =>
    simp only [assign] at h
    cases hg : guard c name with
    | none => rw [hg] at h; cases h; rfl
    | some e => rw [hg] at h; cases h
  | _ => cases h

/-- Every attribute of an open value can be set, and the value stays open. -/
theorem assign_of_isOpen (ht : target.IsOpen guard) (name : String) (value : Value) :
    ∃ target', assign guard target name value = .ok target' ∧ target'.IsOpen guard := by
  cases target with
  | mapping kind es => exact ⟨_, rfl, trivial⟩
  | record fs => exact ⟨_, rfl, trivial⟩
  | object c fs =>
    have hg : guard c name = none := ht name
    exact ⟨.object c (Entries.put (· == ·) fs name value), by rw [assign, hg], ht⟩
  | _ => exact ht.elim

/-! ### Writing a value -/

/-- A value cannot be written along a path because the path is none, or because the attribute that
it starts with cannot be set. -/
theorem extend_error {e : Error} (h : extend guard target path value = .error e) :
    e = .badPath path ∨ (∃ holder name, e = .noAttribute holder name) ∨
      ∃ c name, target.guardedBy? = some c ∧ guard c name = some e := by
  rw [extend_eq] at h
  cases hs : split path with
  | error e' =>
    rw [hs] at h
    cases h
    exact Or.inl (split_error hs)
  | ok names =>
    rw [hs] at h
    cases names with
    | nil => cases h
    | cons name names =>
      rcases assign_error h with ⟨holder, rfl⟩ | ⟨c, hc, hg⟩
      · exact Or.inr (Or.inl ⟨holder, name, rfl⟩)
      · exact Or.inr (Or.inr ⟨c, name, hc, hg⟩)

theorem guardedBy?_of_extend {target' : Value} (h : extend guard target path value = .ok target') :
    target'.guardedBy? = target.guardedBy? := by
  rw [extend_eq] at h
  cases hs : split path with
  | error e => rw [hs] at h; cases h
  | ok names =>
    rw [hs] at h
    cases names with
    | nil => cases h; rfl
    | cons name names => exact guardedBy?_of_assign h

theorem extend_of_not_isPath (h : ¬ IsPath path) :
    extend guard target path value = .error (.badPath path) := by
  rw [extend_eq, split_of_not_isPath h]
  rfl

/-- **Along a path, a value can be written into an open target, which stays open.** -/
theorem extend_of_isOpen (ht : target.IsOpen guard) (hp : IsPath path) (value : Value) :
    ∃ target', extend guard target path value = .ok target' ∧ target'.IsOpen guard := by
  rw [extend_eq, split_of_isPath hp]
  cases (trimmedSegments path).map String.ofList with
  | nil => exact ⟨target, rfl, ht⟩
  | cons name names => exact assign_of_isOpen ht name _

end Chain
end KeyCall
