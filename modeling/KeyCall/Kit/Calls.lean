import KeyCall.Kit.Classes

/-!
# The calls of the kit

What the functions, constructors and methods of the kit answer.  All but one depend on their
arguments only; the exception counts its calls.

## Main definitions

* `Kit.needTexts`: arguments that must be texts of a given number.
* `Kit.functionResult?`, `Kit.construct`, `Kit.methodResult`: what calls answer.
* `Kit.State`, `Kit.call`: a call of any target.
* `Kit.host`: the kit as a host.
-/

namespace KeyCall
namespace Kit

/-! ### Arguments -/

/-- The texts among some values, if all of them are texts. -/
def texts? : List Value → Option (List String)
  | [] => some []
  | .text s :: vs => (texts? vs).map (s :: ·)
  | _ :: _ => none

/-- Arguments that must be texts. -/
def allTexts (name : String) (args : List Value) : Except Error (List String) :=
  match texts? args with
  | some ss => .ok ss
  | none => .error (.raised .kit s!"{name} expects strings" none)

/-- Arguments that must be `n` texts. -/
def needTexts (name : String) (n : Nat) (args : List Value) : Except Error (List String) :=
  if args.length = n then allTexts name args
  else .error (.raised .kit s!"{name} expects {n} arguments, got {args.length}" none)

/-- An argument that must be a text. -/
def needText (name : String) (arg : Value) : Except Error String := do
  let ss ← needTexts name 1 [arg]
  .ok (ss.headD "")

/-- Whether a number of things is written with a plural. -/
def plural (n : Nat) : String := if n = 1 then "" else "s"

/-- The error of a call with more arguments than the callee takes. -/
def tooMany (callee : String) (takes given : Nat) : Error :=
  let verb := if given = 1 then "was" else "were"
  .raised .type
    s!"{callee}() takes {takes} positional argument{plural takes} but {given} {verb} given" none

/-- The error of a call with more arguments than the callee takes, where some may be left out. -/
def tooManyOptional (callee : String) (least most given : Nat) : Error :=
  let verb := if given = 1 then "was" else "were"
  .raised .type
    s!"{callee}() takes from {least} to {most} positional arguments but {given} {verb} given" none

/-- The error of a call without the argument that the callee takes. -/
def missing (callee argument : String) : Error :=
  .raised .type s!"{callee}() missing 1 required positional argument: '{argument}'" none

/-- The one argument of a callee that takes one. -/
def oneArgument (callee argument : String) : List Value → Except Error Value
  | [] => .error (missing callee argument)
  | [x] => .ok x
  | xs => .error (tooMany callee 1 xs.length)

/-- No argument, for a callee that takes none. -/
def noArgument (callee : String) (args : List Value) : Except Error Unit :=
  if args.isEmpty then .ok () else .error (tooMany callee 0 args.length)

/-- The argument of a callee whose one argument may be left out. -/
def optionalArgument (callee : String) : List Value → Except Error Value
  | [] => .ok .null
  | [x] => .ok x
  | xs => .error (tooManyOptional callee 0 1 xs.length)

/-! ### Texts -/

/-- A text with its ASCII letters in upper case. -/
def upper (s : String) : String := s.map Char.toUpper

/-- A text with its ASCII letters in lower case. -/
def lower (s : String) : String := s.map Char.toLower

/-- A text with one character in the place of another. -/
def replaced (old new : Char) (s : String) : String := s.map fun c => if c = old then new else c

/-! ### Functions -/

/-- A class as a value. -/
def classValue (name className : String) : Value := .target ⟨name, .construct className⟩ []

/-- The object that presents a truck: an open record with two functions over the model. -/
def truckPresenter (model : Value) : Value :=
  .record
    [("presentName", .target ⟨"TruckPresenter.presentName", .function "presentName"⟩ [model]),
      ("presentDump", .target ⟨"TruckPresenter.presentDump", .function "presentDump"⟩ [model]),
      ("presentNot", .text "text")]

/-- What the functions of the kit answer, the counting one apart. -/
def functionResult? (name : String) (args : List Value) : Option (Except Error Value) :=
  match name with
  | "echo" => some (.ok (.list args))
  | "strtoupper" => some do
      let ss ← needTexts "strtoupper" 1 args
      .ok (.text (upper (ss.headD "")))
  | "avatar_path" => some do
      let ss ← needTexts "avatar_path" 2 args
      .ok (.text ("http://127.0.0.1/img/" ++ "/".intercalate ss ++ ".png"))
  | "fail" => some (.error (.raised .runtime s!"cannot handle {args.length} args" none))
  | "none" => some (.ok .null)
  | "templ" => some (.ok (.mapping .plain [(.text "$\x7becho(?)\x7d:x", .list args)]))
  | "pair" => some (.ok (.tuple args))
  | "money" => some (.ok (.object "Money" [("args", .list args)]))
  | "raise_parse" => some (.error (.raised .parse "kit parse" none))
  | "raise_parse_t" => some (.error (.raised .parse "kit parse" (some "t'x")))
  | "raise_resolution" => some (.error (.raised .resolution "kit resolution" none))
  | "raise_input" => some (.error (.raised .input "kit input" none))
  | "raise_base" => some (.error (.raised .general "kit base" none))
  | "anon" => some (.ok (.list (.text "anon" :: args)))
  | "shouter" => some (.ok (.list (.text "shout" :: args)))
  | "Truck" => some do
      noArgument "Truck" args
      .ok (.record [])
  | "TruckPresenter" => some do
      let model ← oneArgument "TruckPresenter" "model" args
      .ok (truckPresenter model)
  | "Doc" => some do
      noArgument "Doc" args
      .ok (.mapping .plain [])
  | "Same" => some do
      let model ← optionalArgument "Same" args
      .ok (match model with | .null => .record [] | m => m)
  | "Meta" => some do
      let model ← optionalArgument "Meta" args
      .ok (match model with
        | .null => .record []
        | _ => classValue "MyDecorator" "MyDecorator")
  | _ => none

/-! ### Constructors -/

/-- Constructs an object of a class. -/
def construct (className : String) (how : Construction) (args : List Value) :
    Except Error Value :=
  match how with
  | .plain =>
    if args.isEmpty then .ok (.object className [])
    else .error (.raised .type s!"{className}() takes no arguments" none)
  | .model definedBy => do
    let model ← modelArgument definedBy args
    .ok (.object className [("model", model)])
  | .optionalModel =>
    match args with
    | [] => .ok (.object className [("model", .null)])
    | [m] => .ok (.object className [("model", m)])
    | _ => .error (tooManyOptional s!"{className}.__init__" 1 2 (args.length + 1))
  | .failing reason =>
    if args.isEmpty then .error (.raised .runtime reason none)
    else .error (tooMany s!"{className}.__init__" 1 (args.length + 1))
  | .failingModel reason => do
    let _ ← modelArgument className args
    .error (.raised .runtime reason none)
where
  /-- The model that a constructor takes besides the object it constructs. -/
  modelArgument (definedBy : String) : List Value → Except Error Value
    | [] => .error (missing s!"{definedBy}.__init__" "model")
    | [m] => .ok m
    | ms => .error (tooMany s!"{definedBy}.__init__" 2 (ms.length + 1))

/-! ### Methods -/

/-- The text of a model's name. -/
def nameOf (method : String) (model : Value) : Except Error String := do
  let name ← read model "name"
  needText method name

/-- What the methods that take their object answer for it. -/
def objectMethodResult (method : String) (self : Value) : Except Error Value :=
  match method with
  | "Bare.dump" => .ok self
  | "MyDecoratorPresenter.presentAttr" => do
    let model ← read self "model"
    let x ← read model "attr"
    let s ← needText "presentAttr" x
    .ok (.text (upper s))
  | "Car.slug" => do
    let model ← read self "model"
    let s ← nameOf "slug" model
    .ok (.text (replaced ' ' '-' (lower s)))
  | "CarPresenter.presentUrl" => do
    let model ← read self "model"
    let s ← nameOf "presentUrl" model
    .ok (.text s!"/cars/{s}")
  | "CarPresenter.presentMake" => do
    let model ← read self "model"
    let make ← read model "make"
    let company ← read make "company"
    let companyName ← read company "name"
    let name ← read model "name"
    let ss ← needTexts "presentMake" 2 [companyName, name]
    .ok (.text (" ".intercalate ss))
  | "CarPresenter.presentKind" => do
    let model ← read self "model"
    .ok (match read model "kind" with
      | .ok kind => if kind.isTruthy then kind else .text "unknown"
      | .error _ => .text "unknown")
  | "CarPresenter.represent" => do
    let model ← read self "model"
    .ok (.list [.text "represent", model])
  | "Dumper.presentUrl" => do
    let model ← read self "model"
    .ok (.list [.text "view", model])
  | "ProfilePresenter.presentHandle" => do
    let model ← read self "model"
    let name ← read model "name"
    match name with
    | .text s => .ok (.text s!"@{lower s}")
    | .bytes _ =>
      .error (.raised .type "can only concatenate str (not \"bytes\") to str" none)
    | v => .error (.noAttribute v.holderName "lower")
  | _ => read self "model"

/-- What the methods that do not take an object answer. -/
def classMethodResult? (method : String) (args : List Value) : Option (Except Error Value) :=
  match method with
  | "MyDecorator.commaToBar" => some do
      let ss ← needTexts "commaToBar" 1 args
      .ok (.text (replaced ',' '|' (ss.headD "")))
  | "MyDecorator.join" => some do
      let ss ← allTexts "join" args
      .ok (match ss with | [] => .text "" | sep :: rest => .text (sep.intercalate rest))
  | "MyDecorator.presentStatic" => some (.ok (.list (.text "presentStatic" :: args)))
  | "Files.urlOrFallback" => some do
      let ss ← needTexts "urlOrFallback" 2 args
      .ok (.text ("/files/" ++ "/".intercalate ss))
  | "Avatar.getAvatarPath" => some do
      let name ← oneArgument "Avatar.getAvatarPath" "name" args
      .ok (.text s!"http://127.0.0.1/test/img/{name.asText}.png")
  | "TruckPresenter.presentName" => some do
      let model ← oneArgument "TruckPresenter.presentName" "model" args
      let s ← nameOf "presentName" model
      .ok (.text (upper s))
  | "TruckPresenter.presentDump" => some (oneArgument "TruckPresenter.presentDump" "model" args)
  | _ => none

/-- What a method answers; the object it holds, if any, comes before its arguments. -/
def methodResult (method : String) (args : List Value) : Except Error Value :=
  match classMethodResult? method args with
  | some r => r
  | none =>
    match method, args with
    | "Shouter.ping", _ :: rest => .ok (.list (.text "ping" :: rest))
    | _, _ => do
      let self ← oneArgument method "self" args
      objectMethodResult method self

/-! ### Calls -/

/-- What calls of the kit change: the number of calls of the counting function. -/
structure State where
  /-- How often the counting function was called. -/
  count : Nat := 0
  deriving DecidableEq, Repr, Inhabited

/-- What a target answers that only depends on its arguments. -/
def result (t : Target) (held args : List Value) : Except Error Value :=
  match t.sort with
  | .construct c =>
    match classInfo? c with
    | some info => construct c info.construction args
    | none => .ok (.object c [])
  | _ =>
    match functionResult? t.name args with
    | some r => r
    | none => methodResult t.name (held ++ args)

/-- Calls a target.  Counting starts at one. -/
def call (f : Value) (args : List Value) (s : State) : Except Error Value × State :=
  match f with
  | .target t held =>
    if t.name == "count" then
      let n := s.count + 1
      (.ok (.int n), { s with count := n })
    else (result t held args, s)
  | v => (.error (.raised .type s!"'{v.qualifiedTypeName}' object is not callable" none), s)

/-- A value that JSON lacks, as a text: an amount of money shows how many arguments made it. -/
def describe : Value → String
  | .object "Money" fields =>
    match Entries.get? (· == ·) fields "args" with
    | some (.list args) => s!"money:{args.length}"
    | _ => "money:0"
  | v => v.asText

/-- The kit as a host. -/
def host : Host State := ⟨call, inherited?, guard, fun v => .ok (describe v)⟩

end Kit
end KeyCall
