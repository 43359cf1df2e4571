import KeyCall.Registry
import KeyCall.Template.Argument
import KeyCall.Template.Property
import KeyCall.Template.Reading

/-!
# Dispatch

A template is dispatched in one of three ways.  A function is looked up and called with the
arguments of the parameter list.  A static method is looked up on its class and called likewise.
A presenter takes four steps: the class is called without arguments for a model, the value under
the key is bound onto the model along the path of every property that holds the placeholder, the
presenting class is called with the model, and the method of the object it gives is called without
arguments.

The call itself comes last and is recorded just before it is made, so that a failed look-up leaves
no record.

## Main definitions

* `Naming`: which class presents a model.
* `Naming.presenterName`: its name for a given template.
* `bindModel`: the properties of a template written onto a model.
* `Dispatcher`: a host with a registry and naming rules.
* `Dispatcher.invoke`: the call that a template describes.
* `Handler`: what the templates of a collection are handed to.
* `Handler.process`: an entry of a mapping, whose key may be a template.
* `Dispatcher.handler`, `Dispatcher.process`: the same with a dispatcher as the handler.
-/

namespace KeyCall

/-- Which class presents a model: a method whose name holds the marker belongs to the class named
after the model's class and the suffix, and any other method to the model's class itself. -/
structure Naming where
  /-- What the names of presenting classes end in. -/
  suffix : String := "Presenter"
  /-- What the names of presenting methods contain. -/
  marker : String := "present"
  deriving DecidableEq, Repr, Inhabited

namespace Naming

/-- Whether a method belongs to a presenting class. -/
def marks (n : Naming) (method : String) : Bool :=
  Text.contains (Text.codePoints n.marker.toList) (Text.codePoints method.toList)

/-- The name of the class that presents the model of a template.  Without a class there is none,
and nothing that the suffix could follow. -/
def presenterName (n : Naming) (t : Template) : Except Error (Option String) :=
  if n.marks t.method then
    match t.className with
    | none => .error .noClassName
    | some c => .ok (some (c ++ n.suffix))
  else .ok t.className

/-- The name of the class that presents a model of class `c`. -/
def presenterOf (n : Naming) (c method : String) : String :=
  if n.marks method then c ++ n.suffix else c

/-- With a class, the name of the presenting class is that of its model's class or made from
it. -/
theorem presenterName_of_className (n : Naming) (t : Template) (c : String)
    (h : t.className = some c) : n.presenterName t = .ok (some (n.presenterOf c t.method)) := by
  unfold presenterName presenterOf
  split <;> simp [h]

end Naming

/-! ### Binding a model -/

/-- Writes the value onto the model along the name of every property that is bound, in order. -/
def bindModel (guard : Chain.Guard) (value : Value) : Value → List Property → Except Error Value
  | model, [] => .ok model
  | model, p :: ps =>
    if p.isBound then do
      let model ← Chain.extend guard model p.name value
      bindModel guard value model ps
    else bindModel guard value model ps

/-! ### The three ways to call -/

/-- A host with a registry and naming rules. -/
structure Dispatcher (σ : Type) where
  /-- The host that owns the targets. -/
  host : Host σ
  /-- The names that templates may use. -/
  registry : Registry
  /-- Which class presents a model. -/
  naming : Naming := {}

namespace Dispatcher

variable {σ : Type}

/-- Calls a function. -/
def callFunction (d : Dispatcher σ) (t : Template) (value : Value) : Run σ Value := do
  let f ← Run.lift (d.registry.resolveFunction t.method)
  let args := Argument.bind t.params value
  Run.record (.callingFunction t.method args.length t.outkey)
  Run.call d.host f args

/-- Calls a method of a class. -/
def callStatic (d : Dispatcher σ) (t : Template) (className : String) (value : Value) :
    Run σ Value := do
  let c ← Run.lift (d.registry.resolveClass className)
  let f ← Run.lift (d.host.resolveMethod c t.method)
  let args := Argument.bind t.params value
  Run.record (.callingStatic className t.method args.length t.outkey)
  Run.call d.host f args

/-- Builds a model, binds the properties onto it, and calls a method of its presenter. -/
def callPresenter (d : Dispatcher σ) (t : Template) (className : String) (value : Value) :
    Run σ Value := do
  let c ← Run.lift (d.registry.resolveClass className)
  let model ← Run.call d.host c []
  let pairs ← Run.lift t.pairs
  let model ← Run.lift (bindModel d.host.guard value model pairs)
  let name := d.naming.presenterOf className t.method
  let p ← Run.lift (d.registry.resolveClass name)
  let presenter ← Run.call d.host p [model]
  let f ← Run.lift (d.host.resolveMethod presenter t.method)
  Run.record (.callingPresenter name className t.method t.outkey)
  Run.call d.host f []

/-- Makes the call that a template describes. -/
def invoke (d : Dispatcher σ) (t : Template) (value : Value) : Run σ Value :=
  match t.invocation with
  | .function => d.callFunction t value
  | .static c => d.callStatic t c value
  | .presenter c _ => d.callPresenter t c value

end Dispatcher

/-! ### Entries -/

/-- What the templates of a collection are handed to, each with its key and the value under it. -/
abbrev Handler (σ : Type) := (key : String) → Template → (value : Value) → Run σ Value

namespace Handler

variable {σ : Type}

/-- Processes an entry of a mapping: a template is handed on and gives the output key with what
comes back, and any other key stays as it is together with its value. -/
def process (h : Handler σ) (key value : Value) : Run σ (Value × Value) :=
  match key with
  | .text s =>
    if isTemplateText s then do
      let t ← Run.lift (Template.parse s)
      let result ← h s t value
      pure (.text t.outkey, result)
    else pure (key, value)
  | _ => pure (key, value)

/-- An entry whose key is no template stays as it is. -/
theorem process_of_not_template (h : Handler σ) {key : Value} (value : Value)
    (hk : isTemplateKey key = false) : h.process key value = pure (key, value) := by
  unfold process
  cases key with
  | text s => simp only [isTemplateKey] at hk; simp [hk]
  | _ => rfl

/-- A template is read, handed on, and stored under its output key. -/
theorem process_of_template (h : Handler σ) {key : String} (value : Value)
    (hk : isTemplateText key = true) :
    h.process (.text key) value = (do
      let t ← Run.lift (Template.parse key)
      let result ← h key t value
      pure (.text t.outkey, result)) := by
  simp only [process, hk, if_true]

end Handler

namespace Dispatcher

variable {σ : Type}

/-- A dispatcher makes the call that a template describes. -/
def handler (d : Dispatcher σ) : Handler σ := fun _ t value => d.invoke t value

/-- Processes an entry of a mapping: a template gives the output key and the result of its call,
and any other key stays as it is together with its value. -/
def process (d : Dispatcher σ) (key value : Value) : Run σ (Value × Value) :=
  d.handler.process key value

end Dispatcher
end KeyCall
