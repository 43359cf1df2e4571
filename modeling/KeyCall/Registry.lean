import KeyCall.Host

/-!
# Registries

Templates reach nothing that was not registered first.  A registry is an ordered finite map from
names to callables: a name that is registered again keeps its place and gets the new target, and a
name that was removed and registered again comes last.

## Main definitions

* `Registry`: the map.
* `Registry.register`, `Registry.registerAs`: adds a target, under a name or under its own.
* `Registry.unregister`, `Registry.clear`: removes one name or all.
* `Registry.stored?`, `Registry.get?`, `Registry.contains`, `Registry.names`, `Registry.size`: what
  is there.
* `Registry.resolve`: the target of a name, or the error that there is none.
* `Host.resolveMethod`: an attribute that can be called, or the error that there is none.
* `Registries`, `Scope`: a registry of one's own beside the one shared by all.

## Main results

* `names_insert`, `names_unregister`: which names are there after a change, and in which order.
* `stored?_insert`, `stored?_unregister`: what is under them.
* `resolve_eq_ok_iff`: a name resolves exactly when it is there.
-/

namespace KeyCall

/-- An ordered map from names to callables. -/
structure Registry where
  /-- The names with their targets, in the order of their registration. -/
  entries : List (String × Value) := []
  deriving Inhabited

namespace Registry

/-- The registry without names. -/
def empty : Registry := {}

/-- The names, in order. -/
def names (r : Registry) : List String := Entries.keys r.entries

/-- The number of names. -/
def size (r : Registry) : Nat := r.entries.length

/-- What is under a name. -/
def stored? (r : Registry) (name : String) : Option Value := Entries.get? (· == ·) r.entries name

/-- The target of a name.  Null under a name is as good as nothing. -/
def get? (r : Registry) (name : String) : Option Value :=
  match r.stored? name with
  | some .null => none
  | found => found

/-- Whether a name is there. -/
def contains (r : Registry) (name : String) : Bool := Entries.has (· == ·) r.entries name

/-! ### Changes -/

/-- Gives a name a target, in the place of the name if it is there and at the end otherwise. -/
def insert (r : Registry) (name : String) (target : Value) : Registry :=
  ⟨Entries.put (· == ·) r.entries name target⟩

/-- Registers a target, which must be callable.  That a name is replaced is an event. -/
def register (r : Registry) (name : String) (target : Value) :
    Except Error (Registry × List Event) :=
  if target.isCallable then
    .ok (r.insert name target, if r.contains name then [.replacing name] else [])
  else .error (.notCallable target (.text name))

/-- The name to register a target under: the given one, or the target's own if none is given or
the given one is empty. -/
def nameFor (name : Option String) (target : Value) : Except Error String :=
  match name with
  | some n =>
    if n.isEmpty then own else .ok n
  | none => own
where
  /-- The target's own name.  Only what cannot be called holds one that is no text. -/
  own : Except Error String :=
    match target.ownName? with
    | some (.text n) => .ok n
    | some v => .error (.notCallable target v)
    | none => .error (.noAttribute target.holderName Value.ownNameField)

/-- Registers a target, by default under its own name. -/
def registerAs (r : Registry) (name : Option String) (target : Value) :
    Except Error (Registry × List Event) := do
  let n ← nameFor name target
  r.register n target

/-- Removes a name, if it is there. -/
def unregister (r : Registry) (name : String) : Registry :=
  ⟨Entries.erase (· == ·) r.entries name⟩

/-- Removes all names. -/
def clear (_ : Registry) : Registry := empty

/-! ### Resolution -/

/-- The target of a name; `role` says in the message what the name was taken for. -/
def resolve (r : Registry) (role name : String) : Except Error Value :=
  match r.get? name with
  | some target => .ok target
  | none => .error (.unknownName role name r.names)

/-- The target of a function's name. -/
def resolveFunction (r : Registry) (name : String) : Except Error Value := r.resolve "function" name

/-- The target of a class's name: a class or any callable that constructs an object. -/
def resolveClass (r : Registry) (name : String) : Except Error Value := r.resolve "class" name

/-! ### What operations do to the names -/

theorem names_insert (r : Registry) (name : String) (target : Value) :
    (r.insert name target).names =
      if r.contains name then r.names else r.names ++ [name] :=
  Entries.keys_put _ _ _ _

theorem stored?_insert (r : Registry) (name other : String) (target : Value) :
    (r.insert name target).stored? other =
      if other = name then some target else r.stored? other := by
  split
  case isTrue h => rw [h]; exact Entries.get?_put_self _ _ _
  case isFalse h => exact Entries.get?_put_of_ne _ _ _ h

theorem names_unregister (r : Registry) (name : String) :
    (r.unregister name).names = r.names.filter (· != name) :=
  Entries.keys_erase _ _

theorem stored?_unregister (r : Registry) (name other : String) :
    (r.unregister name).stored? other = if other = name then none else r.stored? other := by
  split
  case isTrue h => rw [h]; exact Entries.get?_erase_self _ _
  case isFalse h => exact Entries.get?_erase_of_ne _ _ h

/-! ### What is there -/

theorem mem_names {r : Registry} {name : String} : name ∈ r.names ↔ r.contains name = true :=
  Entries.mem_keys

theorem stored?_isSome (r : Registry) (name : String) :
    (r.stored? name).isSome = r.contains name :=
  Entries.get?_isSome _ _ _

theorem get?_eq_some_iff {r : Registry} {name : String} {target : Value} :
    r.get? name = some target ↔ r.stored? name = some target ∧ target ≠ .null := by
  unfold get?
  split <;> grind

/-- A name resolves exactly to the target that is registered under it. -/
theorem resolve_eq_ok_iff (r : Registry) (role name : String) (target : Value) :
    r.resolve role name = .ok target ↔ r.get? name = some target := by
  unfold resolve
  split <;> simp_all

end Registry

/-- The attribute of an owner that can be called, or the error that there is none. -/
def Host.resolveMethod {σ : Type} (h : Host σ) (owner : Value) (method : String) :
    Except Error Value :=
  match h.attribute? owner method with
  | some f => if f.isCallable then .ok f else .error (.noMethod owner.ownerName method)
  | none => .error (.noMethod owner.ownerName method)

/-! ### The shared registry -/

/-- Which of two registries is meant. -/
inductive Scope
  /-- The registry of one's own. -/
  | own
  /-- The registry shared by all. -/
  | shared
  deriving DecidableEq, Repr, Inhabited

/-- A registry of one's own beside the one shared by all. -/
structure Registries where
  /-- The registry of one's own. -/
  own : Registry := {}
  /-- The registry shared by all. -/
  shared : Registry := {}
  deriving Inhabited

namespace Registries

/-- The registry that is meant. -/
def get (rs : Registries) : Scope → Registry
  | .own => rs.own
  | .shared => rs.shared

/-- Puts a registry in the place of the one that is meant. -/
def set (rs : Registries) (s : Scope) (r : Registry) : Registries :=
  match s with
  | .own => { rs with own := r }
  | .shared => { rs with shared := r }

@[simp] theorem get_set (rs : Registries) (s : Scope) (r : Registry) :
    (rs.set s r).get s = r := by cases s <;> rfl

theorem get_set_of_ne (rs : Registries) {s s' : Scope} (r : Registry) (h : s' ≠ s) :
    (rs.set s r).get s' = rs.get s' := by
  cases s <;> cases s' <;> first | rfl | exact absurd rfl h

end Registries
end KeyCall
