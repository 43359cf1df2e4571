import KeyCall.Error
import KeyCall.Text.Blank

/-!
# Templates

A key that starts with the sentinel `$` describes a call.  A template is what such a key says: the
method to call, the key to store its result under, and, where they are written, a class, a
property list and a parameter list.  Which of the three ways to call it asks for follows from
which of these are there.

## Main definitions

* `Template`: the pieces of a template.
* `Invocation`, `Template.invocation`: the three ways to call, with what each needs.
* `Shape`, `Template.shape`: the same without the details.
* `isTemplateKey`: whether a key starts with the sentinel.

## Main results

* `shape_eq_function_iff`, `shape_eq_static_iff`, `shape_eq_presenter_iff`: which pieces make
  which shape.
-/

namespace KeyCall

/-- The character that marks a key as a template. -/
def sentinel : Char := '$'

/-- The text that stands for the value under the key. -/
def placeholder : List Char := ['?']

/-- The pieces of a template. -/
structure Template where
  /-- The function or method to call. -/
  method : String
  /-- The key that the result is stored under. -/
  outkey : String
  /-- The class that owns the method. -/
  className : Option String := none
  /-- The property list; an empty one is not the same as none. -/
  properties : Option String := none
  /-- The parameter list. -/
  params : Option String := none
  deriving DecidableEq, Repr, Inhabited

/-- The three ways to call. -/
inductive Invocation
  /-- Call a registered function. -/
  | function
  /-- Call a method of a registered class. -/
  | static (className : String)
  /-- Build a model of the class, bind the properties onto it, and call a method of the object that
  presents it. -/
  | presenter (className properties : String)
  deriving DecidableEq, Repr, Inhabited

/-- The names of the three ways to call. -/
inductive Shape
  /-- A function. -/
  | function
  /-- A static method. -/
  | static
  /-- A presenter's method. -/
  | presenter
  deriving DecidableEq, Repr, Inhabited

/-- The label of a shape. -/
def Shape.label : Shape → String
  | .function => "function"
  | .static => "static"
  | .presenter => "presenter"

/-- The shape of an invocation. -/
def Invocation.shape : Invocation → Shape
  | .function => .function
  | .static _ => .static
  | .presenter _ _ => .presenter

namespace Template

/-- The call a template asks for.  An empty class name counts as none, and without a class the
property list is not looked at. -/
def invocation (t : Template) : Invocation :=
  match t.className with
  | none => .function
  | some c =>
    if c.isEmpty then .function
    else match t.properties with
      | none => .static c
      | some ps => .presenter c ps

/-- The shape of a template. -/
def shape (t : Template) : Shape := t.invocation.shape

/-- A function is called when no class is named. -/
theorem shape_eq_function_iff (t : Template) :
    t.shape = .function ↔ t.className = none ∨ t.className = some "" := by
  unfold shape invocation
  cases hc : t.className with
  | none => simp [Invocation.shape]
  | some c =>
    by_cases h : c.isEmpty
    · simp [Invocation.shape, String.isEmpty_iff.1 h]
    · have : c ≠ "" := fun e => h (String.isEmpty_iff.2 e)
      cases hp : t.properties <;> simp [h, Invocation.shape, this]

/-- A static method is called when a class and no property list is there. -/
theorem shape_eq_static_iff (t : Template) :
    t.shape = .static ↔ (∃ c, t.className = some c ∧ c ≠ "") ∧ t.properties = none := by
  unfold shape invocation
  cases hc : t.className with
  | none => simp [Invocation.shape]
  | some c =>
    by_cases h : c.isEmpty
    · simp [Invocation.shape, String.isEmpty_iff.1 h]
    · have : c ≠ "" := fun e => h (String.isEmpty_iff.2 e)
      cases hp : t.properties <;> simp [h, Invocation.shape, this]

/-- A presenter is called when a class and a property list are there, be the list empty. -/
theorem shape_eq_presenter_iff (t : Template) :
    t.shape = .presenter ↔
      (∃ c, t.className = some c ∧ c ≠ "") ∧ ∃ ps, t.properties = some ps := by
  unfold shape invocation
  cases hc : t.className with
  | none => simp [Invocation.shape]
  | some c =>
    by_cases h : c.isEmpty
    · simp [Invocation.shape, String.isEmpty_iff.1 h]
    · have : c ≠ "" := fun e => h (String.isEmpty_iff.2 e)
      cases hp : t.properties <;> simp [h, Invocation.shape, this]

end Template

/-- Whether a text starts with the sentinel. -/
def isTemplateText (s : String) : Bool := s.toList.head? == some sentinel

/-- Whether a key is to be read as a template: it is a text that starts with the sentinel. -/
def isTemplateKey : Value → Bool
  | .text s => isTemplateText s
  | _ => false

end KeyCall
