import KeyCall.Host

/-!
# The classes of the kit

The kit is a host with a fixed set of targets, which covers the ways in which a target can answer
or fail.  This module describes its classes: how their objects are constructed, which methods and
values they give their objects, and which fields they refuse.

## Main definitions

* `Kit.Construction`: the ways to construct an object.
* `Kit.ClassInfo`, `Kit.classInfo?`: what is known of a class.
* `Kit.inherited?`: what a value has from its class.
* `Kit.guard`: the fields that classes refuse.
-/

namespace KeyCall
namespace Kit

/-- The ways to construct an object.  A class that takes a model may have the constructor from
another class, which then is the one that messages name. -/
inductive Construction
  /-- Without arguments. -/
  | plain
  /-- With a model, which becomes a field. -/
  | model (definedBy : String)
  /-- With a model that may be left out. -/
  | optionalModel
  /-- Without arguments, and always fails. -/
  | failing (reason : String)
  /-- With a model, and always fails. -/
  | failingModel (reason : String)
  deriving DecidableEq, Repr, Inhabited

/-- A method: the class that defines it, its name, and whether it takes the object it is called
on. -/
structure Method where
  /-- The class that defines the method. -/
  definedBy : String
  /-- The name of the method. -/
  name : String
  /-- Whether the object is its first argument. -/
  takesObject : Bool
  deriving DecidableEq, Repr, Inhabited

/-- What is known of a class. -/
structure ClassInfo where
  /-- How its objects are constructed. -/
  construction : Construction
  /-- Its methods. -/
  methods : List Method := []
  /-- The values that the class itself holds. -/
  values : List (String × Value) := []
  deriving Inhabited

/-- Methods of a class that take the object. -/
def objectMethods (definedBy : String) (names : List String) : List Method :=
  names.map fun n => ⟨definedBy, n, true⟩

/-- Methods of a class that do not take an object. -/
def classMethods (definedBy : String) (names : List String) : List Method :=
  names.map fun n => ⟨definedBy, n, false⟩

/-- A class that shows the model it is given. -/
def dumper : ClassInfo where
  construction := .model "Dumper"
  methods := objectMethods "Dumper" ["presentDump", "dump", "presentUrl"]

/-- What is known of the class of that name. -/
def classInfo? : String → Option ClassInfo
  | "MyDecorator" => some
      { construction := .plain
        methods := classMethods "MyDecorator" ["commaToBar", "join", "presentStatic"]
        values := [("attr", .null), ("label", .text "not callable")] }
  | "MyDecoratorPresenter" => some
      { construction := .model "MyDecoratorPresenter"
        methods := objectMethods "MyDecoratorPresenter" ["presentAttr"] }
  | "Car" => some
      { construction := .optionalModel
        methods := objectMethods "Car" ["slug", "dump"] }
  | "CarPresenter" => some
      { construction := .model "CarPresenter"
        methods := objectMethods "CarPresenter"
          ["presentUrl", "presentMake", "presentKind", "presentDump", "represent"] }
  | "CarView" => some dumper
  | "DocPresenter" => some dumper
  | "Bare" => some { construction := .plain, methods := objectMethods "Bare" ["dump"] }
  | "BarePresenter" => some dumper
  | "Frozen" => some { construction := .plain }
  | "FrozenPresenter" => some dumper
  | "Boom" => some { construction := .failing "boom model" }
  | "BoomPresenter" => some dumper
  | "Flaky" => some { construction := .plain }
  | "FlakyPresenter" => some { construction := .failingModel "boom presenter" }
  | "Files" => some
      { construction := .plain, methods := classMethods "Files" ["urlOrFallback"] }
  | "Shouter" => some
      { construction := .plain
        methods := objectMethods "Shouter" ["ping"]
        values := [("volume", .int 11)] }
  | "Avatar" => some
      { construction := .plain, methods := classMethods "Avatar" ["getAvatarPath"] }
  | "Profile" => some { construction := .plain, values := [("name", .null)] }
  | "ProfilePresenter" => some
      { construction := .model "ProfilePresenter"
        methods := objectMethods "ProfilePresenter" ["presentHandle"] }
  | _ => none

/-! ### Look-up -/

/-- A method as a value, with the values it holds. -/
def methodValue (m : Method) (held : List Value) : Value :=
  .target ⟨s!"{m.definedBy}.{m.name}", .function m.name⟩ held

/-- What a class has under a name, for the object that looks it up, if there is one. -/
def classAttribute? (className name : String) (object : Option Value) : Option Value := do
  let info ← classInfo? className
  match info.methods.find? fun m => m.name == name with
  | some m => some (methodValue m (if m.takesObject then object.toList else []))
  | none => Entries.get? (· == ·) info.values name

/-- What a value has from its class.  A class has what it gives its objects, without an object. -/
def inherited? (v : Value) (name : String) : Option Value :=
  match v with
  | .object c _ => classAttribute? c name (some v)
  | .target ⟨_, .construct c⟩ [] => classAttribute? c name none
  | .target ⟨_, .callable c⟩ [] => classAttribute? c name (some v)
  | _ => none

/-- The frozen class refuses every field. -/
def guard : Chain.Guard := fun className field =>
  if className == "Frozen" then some (.raised .member s!"frozen: {field}" none) else none

/-- Reads an attribute of a value. -/
def read (v : Value) (name : String) : Except Error Value :=
  match v.field? name with
  | some x => .ok x
  | none =>
    match inherited? v name with
    | some x => .ok x
    | none => .error (.noAttribute v.holderName name)

end Kit
end KeyCall
