import KeyCall.Value.Shown

/-!
# The log

What the program does is recorded event by event: which registered names are replaced, which
calls are about to be made, which output keys are overwritten, and which registry modules have
been loaded.

## Main definitions

* `Event`: what is recorded.
* `Event.line`: how it is written, behind its level and the part of the program it comes from.
-/

namespace KeyCall

/-- An event of the log. -/
inductive Event
  /-- A registered name is about to get another target. -/
  | replacing (name : String)
  /-- A function is about to be called. -/
  | callingFunction (method : String) (arity : Nat) (outkey : String)
  /-- A method of a class is about to be called. -/
  | callingStatic (className method : String) (arity : Nat) (outkey : String)
  /-- A presenter's method is about to be called. -/
  | callingPresenter (presenter className method outkey : String)
  /-- The entry of a mapping is about to replace an earlier entry of the output. -/
  | overwritten (outkey key : Value)
  /-- A registry module was loaded, and the registry now has that many names. -/
  | moduleLoaded (file : String) (size : Nat)
  deriving Inhabited

namespace Event

/-- The part of the program that records an event, with the level of the event. -/
def source : Event → String
  | replacing _ => "DEBUG datadecorator.registry"
  | callingFunction _ _ _ => "DEBUG datadecorator.dispatcher"
  | callingStatic _ _ _ _ => "DEBUG datadecorator.dispatcher"
  | callingPresenter _ _ _ _ => "DEBUG datadecorator.dispatcher"
  | overwritten _ _ => "DEBUG datadecorator.decorator"
  | moduleLoaded _ _ => "INFO datadecorator.loader"

/-- What an event says. -/
def message : Event → String
  | replacing name => s!"Replacing registry entry {Text.quoted name}"
  | callingFunction method arity outkey =>
    s!"Calling {method}({arity} args) for {Text.quoted outkey}"
  | callingStatic className method arity outkey =>
    s!"Calling {className}.{method}({arity} args) for {Text.quoted outkey}"
  | callingPresenter presenter className method outkey =>
    s!"Calling {presenter}({className}).{method}() for {Text.quoted outkey}"
  | overwritten outkey key => s!"Output key {outkey.shown} overwritten by {key.shown}"
  | moduleLoaded file size => s!"Loaded registry module {file} ({size} names registered)"

/-- An event as a line of the log. -/
def line (e : Event) : String := s!"{e.source}: {e.message}"

end Event
end KeyCall
