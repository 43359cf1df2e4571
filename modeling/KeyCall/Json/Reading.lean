import KeyCall.Json.Token

/-!
# Reading JSON

The tokens of a text are read one at a time, with the containers that are open kept on a stack.
What may come next follows from the innermost of them, and the first token that may not is the
error.  Members of one name are one entry, as in every mapping.  Containers can be opened inside of
each other as long as the stack has room for them.

## Main definitions

* `Json.Frame`: an open container.
* `Json.Await`: what may come next.
* `Json.step`: one token.
* `Json.read`: a text.
-/

namespace KeyCall
namespace Json

/-- An open container with what is in it so far. -/
inductive Frame
  /-- A list; its items in reverse. -/
  | list (done : List Value)
  /-- A mapping, and the key whose value is being read. -/
  | mapping (done : List (Value × Value)) (key : String)
  deriving Inhabited

/-- What may come next. -/
inductive Await
  /-- A value. -/
  | value
  /-- A value, or the end of an empty list. -/
  | firstValue
  /-- A name for the mapping that holds `done`. -/
  | name (done : List (Value × Value))
  /-- A name, or the end of an empty mapping. -/
  | firstName
  /-- The colon behind a name. -/
  | colon (done : List (Value × Value)) (key : String)
  /-- What follows a value. -/
  | next (v : Value)
  deriving Inhabited

/-- The state between tokens: the open containers, the innermost first, and what may come. -/
abbrev State := List Frame × Await

/-- Starts a value, if the token can. -/
def start? (stack : List Frame) : Token → Option State
  | .scalar v => some (stack, .next v)
  | .text s => some (stack, .next (.text s))
  | .openBracket => some (stack, .firstValue)
  | .openBrace => some (stack, .firstName)
  | _ => none

/-- The number of containers that the stack has room for when a file is loaded and nothing else is
on it. -/
def depthLimit : Nat := 990

/-- The kind of container that a token opens, if it opens one. -/
def container? : Token → Option String
  | .openBracket => some "array"
  | .openBrace => some "object"
  | _ => none

/-- Starts a value, or tells what is wrong with the token; `room` is the number of containers that
may be open at once. -/
def start (room : Nat) (stack : List Frame) (l : Lexeme) : Except Fault State :=
  match container? l.token, start? stack l.token, l.token with
  | some c, some s, _ =>
    if room ≤ stack.length then .error ⟨.other (.tooDeep c), l.rest⟩ else .ok s
  | _, some s, _ => .ok s
  | _, none, .badText f => .error f
  | _, none, .tooLong n => .error ⟨.other (.tooLargeToRead n), l.rest⟩
  | _, none, _ => .error ⟨.value, l.rest⟩

/-- Reads a name, or tells what is wrong with the token. -/
def startName (stack : List Frame) (done : List (Value × Value)) (l : Lexeme) :
    Except Fault State :=
  match l.token with
  | .text s => .ok (stack, .colon done s)
  | .badText f => .error f
  | _ => .error ⟨.name, l.rest⟩

/-- Opens a list before its first value. -/
def openList (stack : List Frame) : List Frame := .list [] :: stack

/-- One token: the next state, or the value that the text was. -/
def step (room : Nat) (s : State) (l : Lexeme) : Except Fault (State ⊕ Value) :=
  let fault (r : Reason) : Except Fault (State ⊕ Value) := .error ⟨r, l.rest⟩
  match s with
  | (stack, .value) => (start room stack l).map .inl
  | (stack, .firstValue) =>
    match l.token with
    | .closeBracket => .ok (.inl (stack, .next (.list [])))
    | _ => (start room (openList stack) l).map .inl
  | (stack, .name done) => (startName stack done l).map .inl
  | (stack, .firstName) =>
    match l.token with
    | .closeBrace => .ok (.inl (stack, .next (.mapping .plain [])))
    | _ => (startName stack [] l).map .inl
  | (stack, .colon done key) =>
    match l.token with
    | .colon => .ok (.inl (.mapping done key :: stack, .value))
    | _ => fault .colon
  | ([], .next v) =>
    match l.token with
    | .finish => .ok (.inr v)
    | _ => fault .extra
  | (.list done :: stack, .next v) =>
    match l.token with
    | .comma => .ok (.inl (.list (v :: done) :: stack, .value))
    | .closeBracket => .ok (.inl (stack, .next (.list (v :: done).reverse)))
    | _ => fault .comma
  | (.mapping done key :: stack, .next v) =>
    let done := Value.putEntry done (.text key) v
    match l.token with
    | .comma => .ok (.inl (stack, .name done))
    | .closeBrace => .ok (.inl (stack, .next (.mapping .plain done)))
    | _ => fault .comma

/-- Reads tokens from a state on. -/
def readFrom (room : Nat) : State → List Lexeme → Except Fault Value
  | _, [] => .error ⟨.value, []⟩
  | s, l :: ls =>
    match step room s l with
    | .error f => .error f
    | .ok (.inr v) => .ok v
    | .ok (.inl s) => readFrom room s ls

/-- Reads a text, which must not start with a byte order mark. -/
def read (text : List Char) (room : Nat := depthLimit) : Except Fault Value :=
  match text with
  | '\ufeff' :: _ => .error ⟨.byteOrderMark, text⟩
  | _ => readFrom room ([], .value) (lexemes text)

end Json
end KeyCall
