import KeyCall.Chain
import KeyCall.Event

/-!
# Hosts and runs

The targets that templates call belong to a host: the program that embeds the library.  All that
the library asks of a host is collected in `Host`: how a callable is called, what an object gets
from its class, which fields a class refuses, and how an object is written as a text.  What calls
leave behind on the host's side is a state of the host's own type.

A `Run` is a computation that may fail, and that leaves the host's state and the log behind
whether it fails or not.

## Main definitions

* `Host`: what the embedding program supplies.
* `Host.attribute?`: attribute lookup.
* `Stage`: the host's state and the log.
* `Run`: computations over a stage, a monad.
* `Run.call`, `Run.record`, `Run.lift`: a call of the host, an event, and a pure computation that
  may fail.

## Main results

* `run_pure`, `run_bind`, `run_lift`: what each step does to the stage.
* `instLawfulMonad`: runs obey the laws of monads.
-/

namespace KeyCall

/-- What the embedding program supplies; `σ` is the state that its calls change. -/
structure Host (σ : Type) where
  /-- Calls a callable with arguments. -/
  call : Value → List Value → σ → Except Error Value × σ
  /-- What a value has from its class under a name; a method found so holds the value. -/
  inherited? : Value → String → Option Value
  /-- What a class has against a field being set on its objects. -/
  guard : Chain.Guard
  /-- An object, an open record or a callable as a text, if making that text does not fail. -/
  describe : Value → Except Error String

/-- Looks up an attribute: what a value holds itself hides what it has from its class. -/
def Host.attribute? {σ : Type} (h : Host σ) (v : Value) (name : String) : Option Value :=
  match v.field? name with
  | some x => some x
  | none => h.inherited? v name

/-- What a run changes. -/
structure Stage (σ : Type) where
  /-- The host's state. -/
  state : σ
  /-- The events so far, the latest last. -/
  log : List Event := []

/-- A computation that may fail, and leaves a stage behind either way. -/
def Run (σ α : Type) : Type := Stage σ → Except Error α × Stage σ

namespace Run

variable {σ α β : Type}

/-- Runs a computation on a stage. -/
def run (r : Run σ α) (s : Stage σ) : Except Error α × Stage σ := r s

instance : Monad (Run σ) where
  pure a := fun s => (.ok a, s)
  bind r f := fun s =>
    match r s with
    | (.ok a, s') => f a s'
    | (.error e, s') => (.error e, s')

/-- Fails, and leaves the stage as it is. -/
def fail (e : Error) : Run σ α := fun s => (.error e, s)

/-- A pure computation that may fail. -/
def lift (r : Except Error α) : Run σ α := fun s => (r, s)

/-- Appends an event to the log. -/
def record (e : Event) : Run σ Unit := fun s => (.ok (), { s with log := s.log ++ [e] })

/-- Has the host call a callable. -/
def call (h : Host σ) (f : Value) (args : List Value) : Run σ Value := fun s =>
  let (r, state) := h.call f args s.state
  (r, { s with state })

@[simp] theorem run_pure (a : α) (s : Stage σ) : (pure a : Run σ α).run s = (.ok a, s) := rfl

theorem run_bind (r : Run σ α) (f : α → Run σ β) (s : Stage σ) :
    (r >>= f).run s =
      match r.run s with
      | (.ok a, s') => (f a).run s'
      | (.error e, s') => (.error e, s') := rfl

@[simp] theorem run_lift (r : Except Error α) (s : Stage σ) : (lift r).run s = (r, s) := rfl

@[simp] theorem run_fail (e : Error) (s : Stage σ) :
    (fail e : Run σ α).run s = (.error e, s) := rfl

@[simp] theorem run_record (e : Event) (s : Stage σ) :
    (record e).run s = (.ok (), { s with log := s.log ++ [e] }) := rfl

@[ext] theorem ext {r r' : Run σ α} (h : ∀ s, r.run s = r'.run s) : r = r' := funext h

/-- Mapping the identity over a run changes nothing. -/
theorem map_id (r : Run σ α) : id <$> r = r := by
  refine funext fun s => ?_
  show (match r s with | (.ok a, s') => (.ok (id a), s') | (.error e, s') => (.error e, s')) = r s
  rcases r s with ⟨_ | _, _⟩ <;> rfl

/-- The order in which three steps are put together does not matter. -/
theorem bind_assoc {γ : Type} (r : Run σ α) (f : α → Run σ β) (g : β → Run σ γ) :
    r >>= f >>= g = r >>= fun a => f a >>= g := by
  refine funext fun s => ?_
  show (match (match r s with | (.ok a, s') => f a s' | (.error e, s') => (.error e, s')) with
      | (.ok b, s') => g b s'
      | (.error e, s') => (.error e, s')) =
    match r s with
    | (.ok a, s') => (match f a s' with
      | (.ok b, s') => g b s'
      | (.error e, s') => (.error e, s'))
    | (.error e, s') => (.error e, s')
  rcases r s with ⟨_ | _, _⟩ <;> rfl

instance instLawfulMonad : LawfulMonad (Run σ) :=
  LawfulMonad.mk' _ map_id (fun _ _ => rfl) bind_assoc

end Run
end KeyCall
