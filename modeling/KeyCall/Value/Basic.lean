import KeyCall.Decimal.Binary64
import KeyCall.Entries

/-!
# Values

The values that collections hold, templates pass on and targets return.  Besides scalars, lists,
tuples and mappings there are open records and the objects of the host, which are scalars to the
walk over a collection however much they hold, and the callables that a registry knows.

## Main definitions

* `Date`, `Moment`: days, and times of day on them.
* `Value`: a value.
* `Target`: a callable, by its name in the host's catalogue.
* `Value.isCollection`: lists, tuples and mappings, which the walk enters.
* `Value.isCallable`: whether a value can be registered.
* `Value.typeName`, `Value.ownerName`: the names messages give to the type of a value.
* `Value.isTruthy`: whether a value counts as true.
* `Value.field?`: what a record or an object holds under a name.
-/

namespace KeyCall

/-- A day of the calendar. -/
structure Date where
  /-- The year, of four digits. -/
  year : Nat
  /-- The month, from 1. -/
  month : Nat
  /-- The day of the month, from 1. -/
  day : Nat
  deriving DecidableEq, Repr, Inhabited

namespace Date

/-- Whether a year has a day more. -/
def isLeapYear (y : Nat) : Bool := y % 4 == 0 && (y % 100 != 0 || y % 400 == 0)

/-- The number of days of a month. -/
def daysIn (y m : Nat) : Nat :=
  if m = 2 then (if isLeapYear y then 29 else 28)
  else if m = 4 || m = 6 || m = 9 || m = 11 then 30
  else 31

/-- The number of days up to a day, itself included, from the first day of the year 1 on. -/
def ordinal (d : Date) : Nat :=
  let y := d.year - 1
  365 * y + y / 4 - y / 100 + y / 400 +
    (List.range' 1 (d.month - 1)).foldl (fun days m => days + daysIn d.year m) 0 + d.day

end Date

/-- A time of day on a day, with or without the offset of its zone. -/
structure Moment where
  /-- The day. -/
  date : Date
  /-- The hour, below 24. -/
  hour : Nat
  /-- The minute, below 60. -/
  minute : Nat
  /-- The second, below 60. -/
  second : Nat
  /-- The millionths of a second. -/
  micro : Nat
  /-- By how many minutes the zone is ahead. -/
  offset : Option Int
  deriving DecidableEq, Repr, Inhabited

/-- The millionths of seconds in front of a moment whose zone is ahead by some minutes. -/
def Moment.instant (m : Moment) (offset : Int) : Int :=
  let minutes : Int := (24 * m.date.ordinal + m.hour : Nat) * 60 + m.minute - offset
  1000000 * (60 * minutes + m.second) + m.micro

/-- Whether two moments are the same.  Those in a zone are compared by when they are, and are never
the same as those in none. -/
def Moment.same (a b : Moment) : Bool :=
  match a.offset, b.offset with
  | some x, some y => a.instant x == b.instant y
  | none, none => a == b
  | _, _ => false

/-- The kinds of mapping.  They differ in how messages show them; to the walk they are alike. -/
inductive MappingKind
  /-- The usual kind, and the kind of every mapping that processing builds. -/
  | plain
  /-- A mapping that stresses its order. -/
  | ordered
  /-- A mapping made by the user, not of the built-in kind. -/
  | custom
  deriving DecidableEq, Repr, Inhabited

/-- What a callable is. -/
inductive TargetSort
  /-- A function, with the name it bears itself. -/
  | function (ownName : String)
  /-- A class: calling it constructs an object. -/
  | construct (className : String)
  /-- An object of the class that can be called; it bears no name. -/
  | callable (className : String)
  deriving DecidableEq, Repr, Inhabited

/-- A callable of the host. -/
structure Target where
  /-- The name that the host's catalogue knows it by. -/
  name : String
  /-- What it is. -/
  sort : TargetSort
  deriving DecidableEq, Repr, Inhabited

/-- A value. -/
inductive Value
  /-- The absent value. -/
  | null
  /-- A truth value. -/
  | bool (b : Bool)
  /-- An integer of any size. -/
  | int (n : Int)
  /-- A fractional number. -/
  | float (x : Binary64)
  /-- A text. -/
  | text (s : String)
  /-- A string of bytes. -/
  | bytes (bs : List UInt8)
  /-- A day. -/
  | date (d : Date)
  /-- A time of day on a day. -/
  | moment (m : Moment)
  /-- A list. -/
  | list (items : List Value)
  /-- A tuple: a list that cannot be changed, and hence may be a key. -/
  | tuple (items : List Value)
  /-- A mapping, its entries in the order of their keys' first writing. -/
  | mapping (kind : MappingKind) (entries : List (Value × Value))
  /-- An open record: names and values in the order first set. -/
  | record (fields : List (String × Value))
  /-- An object of a host class with the fields it holds itself. -/
  | object (className : String) (fields : List (String × Value))
  /-- A callable, with the values it already holds: a method looked up on an object holds the
  object. -/
  | target (t : Target) (held : List Value)
  deriving Inhabited

namespace Value

/-! ### Kinds of values -/

/-- Lists, tuples and mappings are collections; every other value is a scalar. -/
def isCollection : Value → Bool
  | .list _ => true
  | .tuple _ => true
  | .mapping _ _ => true
  | _ => false

/-- Whether a value is a mapping. -/
def isMapping : Value → Bool
  | .mapping _ _ => true
  | _ => false

/-- Whether a value can be called, and so be registered. -/
def isCallable : Value → Bool
  | .target _ _ => true
  | _ => false

/-- The name of a value's type, as `OWNER has no callable method` gives it for a value that is
not a class. -/
def typeName : Value → String
  | .null => "NoneType"
  | .bool _ => "bool"
  | .int _ => "int"
  | .float _ => "float"
  | .text _ => "str"
  | .bytes _ => "bytes"
  | .date _ => "date"
  | .moment _ => "datetime"
  | .list _ => "list"
  | .tuple _ => "tuple"
  | .mapping .plain _ => "dict"
  | .mapping .ordered _ => "OrderedDict"
  | .mapping .custom _ => "UserDict"
  | .record _ => "SimpleNamespace"
  | .object c _ => c
  | .target ⟨_, .function _⟩ _ => "function"
  | .target ⟨_, .construct _⟩ _ => "type"
  | .target ⟨_, .callable c⟩ _ => c

/-- The full name of a value's type, with the library it comes from where it is not a basic
one. -/
def qualifiedTypeName : Value → String
  | .date _ => "datetime.date"
  | .moment _ => "datetime.datetime"
  | .mapping .ordered _ => "collections.OrderedDict"
  | .record _ => "types.SimpleNamespace"
  | v => v.typeName

/-- The name of the owner of a missing method: a class's own name, and otherwise the name of the
value's type. -/
def ownerName : Value → String
  | .target ⟨_, .construct c⟩ _ => c
  | v => v.typeName

/-- How a message about a missing attribute introduces the value. -/
def holderName : Value → String
  | .target ⟨_, .construct c⟩ _ => s!"type object '{c}'"
  | v => s!"'{v.qualifiedTypeName}' object"

/-- Whether a value counts as true: null, false, the zeros and everything empty do not. -/
def isTruthy : Value → Bool
  | .null => false
  | .bool b => b
  | .int n => n != 0
  | .float x => !x.isZero
  | .text s => !s.isEmpty
  | .bytes bs => !bs.isEmpty
  | .list xs => !xs.isEmpty
  | .tuple xs => !xs.isEmpty
  | .mapping _ es => !es.isEmpty
  | _ => true

/-! ### Fields -/

/-- What a record or an object holds itself under a name. -/
def field? : Value → String → Option Value
  | .record fs, n => Entries.get? (· == ·) fs n
  | .object _ fs, n => Entries.get? (· == ·) fs n
  | _, _ => none

/-- The attribute that holds a value's own name. -/
def ownNameField : String := "__name__"

/-- The name that a value bears itself.  Functions and classes have one, and a record or an object
may hold one, which need not be a text. -/
def ownName? : Value → Option Value
  | .target ⟨_, .function n⟩ _ => some (.text n)
  | .target ⟨_, .construct c⟩ _ => some (.text c)
  | v => v.field? ownNameField

@[simp] theorem isCollection_list (xs : List Value) : (Value.list xs).isCollection = true := rfl

@[simp] theorem isCollection_tuple (xs : List Value) : (Value.tuple xs).isCollection = true := rfl

@[simp] theorem isCollection_mapping (k : MappingKind) (es : List (Value × Value)) :
    (Value.mapping k es).isCollection = true := rfl

/-! ### Equality of keys -/

mutual

/-- Whether two values are the same key of a mapping.  Numbers compare by what they are worth, so
that `1`, `1.0` and true are one key; tuples compare item by item. -/
def sameKey : Value → Value → Bool
  | .null, .null => true
  | .bool a, .bool b => a == b
  | .bool a, .int n => (if a then 1 else 0) == n
  | .int n, .bool a => (if a then 1 else 0) == n
  | .int m, .int n => m == n
  | .float x, .float y => x.equals y
  | .float x, .int n => x.equalsInt n
  | .int n, .float x => x.equalsInt n
  | .float x, .bool a => x.equalsInt (if a then 1 else 0)
  | .bool a, .float x => x.equalsInt (if a then 1 else 0)
  | .text s, .text t => s == t
  | .bytes a, .bytes b => a == b
  | .date a, .date b => a == b
  | .moment a, .moment b => a.same b
  | .tuple xs, .tuple ys => sameKeys xs ys
  | .target s [], .target t [] => s == t
  | _, _ => false

/-- Item by item, whether two lists of values are the same. -/
def sameKeys : List Value → List Value → Bool
  | [], [] => true
  | x :: xs, y :: ys => sameKey x y && sameKeys xs ys
  | _, _ => false

end

/-- Writes an entry of a mapping. -/
def putEntry (es : List (Value × Value)) (k v : Value) : List (Value × Value) :=
  Entries.put sameKey es k v

@[simp] theorem sameKey_text (s t : String) : sameKey (.text s) (.text t) = (s == t) := by
  simp [sameKey]

/-- A text is the same key as itself only. -/
theorem sameKey_text_left {s : String} {k : Value} : sameKey (.text s) k = true ↔ k = .text s := by
  cases k with
  | text t => rw [sameKey_text, beq_iff_eq, Value.text.injEq, eq_comm]
  | _ => simp [sameKey]

theorem sameKey_text_right {s : String} {k : Value} : sameKey k (.text s) = true ↔ k = .text s := by
  cases k with
  | text t => rw [sameKey_text, beq_iff_eq, Value.text.injEq]
  | target t held => cases held <;> exact iff_of_false Bool.false_ne_true nofun
  | _ => exact iff_of_false Bool.false_ne_true nofun

end Value
end KeyCall
