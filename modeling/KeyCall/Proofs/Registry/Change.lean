import KeyCall.Registry

/-!
# Changes of registries

A registry changes in four ways, and each comes to one of three things: a target is registered under
a name, names are removed, or the change fails.  Whether it fails does not depend on the registry.

## Main definitions

* `Change` — what can be done to a registry.
* `Registry.change` — what a registry becomes.
* `GoesBy` — the name that a target is registered under.
* `Change.Registers`, `Change.Ends`, `Change.Raises` — what a change comes to.

## Main results

* `Change.exhausted` — a change registers, fails, or removes.
* `Registry.change_of_registers`, `Registry.change_of_raises` — what the first two do.
-/

namespace KeyCall

/-- What can be done to a registry. -/
inductive Change
  /-- Register a target under a name. -/
  | register (name : String) (target : Value)
  /-- Register a target under a name or its own. -/
  | registerAs (name : Option String) (target : Value)
  /-- Remove a name. -/
  | unregister (name : String)
  /-- Remove all names. -/
  | clear

/-- What a registry becomes, with the events of it. -/
def Registry.change (r : Registry) : Change → Except Error (Registry × List Event)
  | .register name target => r.register name target
  | .registerAs name target => r.registerAs name target
  | .unregister name => .ok (r.unregister name, [])
  | .clear => .ok (r.clear, [])

/-- The name that a target is registered under: the given one or, if none or an empty one is given,
its own. -/
def GoesBy (name : Option String) (target : Value) (n : String) : Prop :=
  name = some n ∧ n ≠ "" ∨ (name = none ∨ name = some "") ∧ target.ownName? = some (.text n)

namespace Change

/-- The change registers the target under the name. -/
def Registers : Change → String → Value → Prop
  | .register name target, n, t => target.isCallable = true ∧ n = name ∧ t = target
  | .registerAs name target, n, t => target.isCallable = true ∧ GoesBy name target n ∧ t = target
  | _, _, _ => False

/-- The change removes the name. -/
def Ends : Change → String → Prop
  | .unregister name, n => n = name
  | .clear, _ => True
  | _, _ => False

/-- The change fails: the target cannot be called, or no name is given and it has none. -/
def Raises : Change → Prop
  | .register _ target => target.isCallable = false
  | .registerAs name target =>
    target.isCallable = false ∨ (name = none ∨ name = some "") ∧ target.ownName? = none
  | _ => False

end Change

/-! ### What a change comes to -/

theorem Registry.nameFor_eq_ok_iff {name : Option String} {target : Value} {n : String} :
    nameFor name target = .ok n ↔ GoesBy name target n := by
  have hown : nameFor.own target = .ok n ↔ target.ownName? = some (.text n) := by
    unfold nameFor.own
    split <;> simp_all
  cases name with
  | none => simp [nameFor, GoesBy, hown]
  | some m =>
    simp only [nameFor, GoesBy, String.isEmpty_iff]
    split <;> grind

/-- What can be called has a text for its name, if it has one. -/
theorem Value.ownName?_of_isCallable {v : Value} (hv : v.isCallable = true) :
    v.ownName? = none ∨ ∃ n, v.ownName? = some (.text n) := by
  cases v with
  | target t held =>
    obtain ⟨name, sort⟩ := t
    cases sort with
    | function n => exact Or.inr ⟨n, rfl⟩
    | construct c => exact Or.inr ⟨c, rfl⟩
    | callable c => exact Or.inl rfl
  | _ => cases hv

namespace Change

/-- **A change registers, fails, or removes.** -/
theorem exhausted (c : Change) :
    (∃ n t, c.Registers n t) ∨ c.Raises ∨ (∃ n, c = .unregister n) ∨ c = .clear := by
  cases c with
  | unregister n => exact .inr (.inr (.inl ⟨n, rfl⟩))
  | clear => exact .inr (.inr (.inr rfl))
  | register name target =>
    cases hc : target.isCallable with
    | true => exact .inl ⟨name, target, hc, rfl, rfl⟩
    | false => exact .inr (.inl hc)
  | registerAs name target =>
    cases hc : target.isCallable with
    | false => exact .inr (.inl (.inl hc))
    | true =>
      by_cases hname : name = none ∨ name = some ""
      · rcases Value.ownName?_of_isCallable hc with hown | ⟨n, hown⟩
        · exact .inr (.inl (.inr ⟨hname, hown⟩))
        · exact .inl ⟨n, target, hc, .inr ⟨hname, hown⟩, rfl⟩
      · obtain ⟨hnone, hempty⟩ := not_or.1 hname
        obtain ⟨n, rfl⟩ := Option.ne_none_iff_exists'.1 hnone
        exact .inl ⟨n, target, hc, .inl ⟨rfl, fun hn => hempty (by rw [hn])⟩, rfl⟩

end Change

namespace Registry

variable {c : Change} {n : String} {t : Value}

/-- **What a registration does that does not fail.** -/
theorem change_of_registers (hc : c.Registers n t) (r : Registry) :
    r.change c = .ok (r.insert n t, if r.contains n then [.replacing n] else []) := by
  cases c with
  | register name target =>
    obtain ⟨hcall, rfl, rfl⟩ := hc
    rw [change, register, if_pos hcall]
  | registerAs name target =>
    obtain ⟨hcall, hname, rfl⟩ := hc
    have hlook : nameFor name t = .ok n := nameFor_eq_ok_iff.2 hname
    simp only [change, registerAs, hlook]
    exact if_pos hcall
  | unregister name => exact hc.elim
  | clear => exact hc.elim

/-- A change that fails gives an error in any registry. -/
theorem change_of_raises (hc : c.Raises) (r : Registry) : ∃ e, r.change c = .error e := by
  cases c with
  | register name target =>
    have hcall : ¬ target.isCallable = true := Bool.eq_false_iff.1 hc
    exact ⟨_, by rw [change, register, if_neg hcall]⟩
  | registerAs name target =>
    simp only [change, registerAs]
    cases hlook : nameFor name target with
    | error e => exact ⟨e, rfl⟩
    | ok n =>
      have hcall : ¬ target.isCallable = true := by
        rcases hc with hc | ⟨hname, hown⟩
        · exact Bool.eq_false_iff.1 hc
        · rcases nameFor_eq_ok_iff.1 hlook with ⟨hn, hne⟩ | ⟨-, hn⟩
          · rcases hname with hname | hname <;> simp_all
          · simp_all
      exact ⟨_, if_neg hcall⟩
  | unregister name => exact hc.elim
  | clear => exact hc.elim

end Registry

namespace Change

variable {c : Change} {n : String} {t : Value}

theorem not_raises_of_registers (hc : c.Registers n t) : ¬ c.Raises := by
  intro hraises
  obtain ⟨e, he⟩ := Registry.change_of_raises hraises .empty
  rw [Registry.change_of_registers hc] at he
  cases he

/-- A change registers one target under one name. -/
theorem registers_iff (hc : c.Registers n t) {m : String} {u : Value} :
    c.Registers m u ↔ m = n ∧ u = t := by
  refine ⟨fun hm => ?_, fun ⟨hmn, htu⟩ => hmn ▸ htu ▸ hc⟩
  have heq := (Registry.change_of_registers hm .empty).symm.trans
    (Registry.change_of_registers hc .empty)
  injection heq with heq
  injection congrArg (·.1.entries) heq with hentry
  exact Prod.mk.inj hentry

theorem isCallable_of_registers (hc : c.Registers n t) : t.isCallable = true := by
  cases c with
  | register => exact hc.2.2 ▸ hc.1
  | registerAs => exact hc.2.2 ▸ hc.1
  | unregister => exact hc.elim
  | clear => exact hc.elim

/-- What removes a name is a removal. -/
theorem eq_of_ends {m : String} (hc : c.Ends m) : c = .unregister m ∨ c = .clear := by
  cases c with
  | register => exact hc.elim
  | registerAs => exact hc.elim
  | unregister name =>
    have hname : m = name := hc
    exact .inl (by rw [hname])
  | clear => exact .inr rfl

theorem not_ends_of_raises (hc : c.Raises) (m : String) : ¬ c.Ends m := by
  intro hends
  rcases eq_of_ends hends with rfl | rfl <;> exact hc

theorem not_ends_of_registers (hc : c.Registers n t) (m : String) : ¬ c.Ends m := by
  intro hends
  rcases eq_of_ends hends with rfl | rfl <;> exact hc

end Change

end KeyCall
