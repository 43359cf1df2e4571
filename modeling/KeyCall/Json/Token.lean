import KeyCall.Error

/-!
# The tokens of a JSON text

A JSON text is cut into tokens before it is read.  A token keeps the text that starts with it, so
that an error can tell where it is.  Cutting never fails: a text in quotes that is at fault is a
token of its own, and so are an integer of too many digits and a character that starts no token, and
whoever reads the tokens decides which error that is.  No token follows such a one.

## Main definitions

* `Json.Reason`, `Json.Fault`, `Json.Fault.message`: what is wrong with a text, and where.
* `Json.Token`, `Json.Lexeme`: the tokens, and tokens in their places.
* `Json.textBody`: the inside of a text in quotes.
* `Json.number?`: a number.
* `Json.lexemes`: the tokens of a text.
-/

namespace KeyCall
namespace Json

/-! ### Faults -/

/-- Why a JSON text cannot be read. -/
inductive Reason
  /-- A value is needed. -/
  | value
  /-- A member's name is needed. -/
  | name
  /-- A colon is needed. -/
  | colon
  /-- A comma is needed. -/
  | comma
  /-- Something follows the value. -/
  | extra
  /-- A text in quotes has no end. -/
  | unterminated
  /-- A text in quotes holds a control character. -/
  | control
  /-- A backslash comes before a letter that it does not go with. -/
  | badEscape
  /-- A code unit is not spelled by four hexadecimal digits. -/
  | badUnit
  /-- The text starts with a byte order mark. -/
  | byteOrderMark
  /-- The text is well-formed so far, but cannot be read on for a reason of another kind. -/
  | other (e : Error)
  deriving Inhabited

/-- The wording of a reason. -/
def Reason.text : Reason → String
  | value => "Expecting value"
  | name => "Expecting property name enclosed in double quotes"
  | colon => "Expecting ':' delimiter"
  | comma => "Expecting ',' delimiter"
  | extra => "Extra data"
  | unterminated => "Unterminated string starting at"
  | control => "Invalid control character at"
  | badEscape => "Invalid \\escape"
  | badUnit => "Invalid \\uXXXX escape"
  | byteOrderMark => "Unexpected UTF-8 BOM (decode using utf-8-sig)"
  | other e => e.message

/-- The error of a reason that is not a fault of the text. -/
def Reason.error? : Reason → Option Error
  | other e => some e
  | _ => none

/-- What is wrong with a text, and the part of the text that starts where it is wrong. -/
structure Fault where
  /-- What is wrong. -/
  reason : Reason
  /-- The text from there on. -/
  rest : List Char
  deriving Inhabited

/-- The wording of a fault in a text: line and column from one, and the offset from zero. -/
def Fault.message (f : Fault) (text : List Char) : String :=
  let before := text.take (text.length - f.rest.length)
  let line := before.count '\n' + 1
  let column := (before.reverse.takeWhile (· != '\n')).length + 1
  s!"{f.reason.text}: line {line} column {column} (char {before.length})"

/-! ### Tokens -/

/-- A token of a JSON text. -/
inductive Token
  /-- An opening brace. -/
  | openBrace
  /-- A closing brace. -/
  | closeBrace
  /-- An opening bracket. -/
  | openBracket
  /-- A closing bracket. -/
  | closeBracket
  /-- A colon. -/
  | colon
  /-- A comma. -/
  | comma
  /-- A text in quotes. -/
  | text (s : String)
  /-- A text in quotes that is at fault. -/
  | badText (f : Fault)
  /-- A number, a truth value or null. -/
  | scalar (v : Value)
  /-- An integer of too many digits. -/
  | tooLong (digits : Nat)
  /-- A character that starts no token. -/
  | unknown
  /-- The end of the text. -/
  | finish
  deriving Inhabited

/-- A token with the text that starts with it. -/
structure Lexeme where
  /-- The token. -/
  token : Token
  /-- The text from its first character on. -/
  rest : List Char
  deriving Inhabited

/-! ### Texts in quotes -/

/-- The worth of a hexadecimal digit. -/
def hexValue? (c : Char) : Option Nat :=
  if c.isDigit then some (c.toNat - '0'.toNat)
  else if 'a' ≤ c && c ≤ 'f' then some (c.toNat - 'a'.toNat + 10)
  else if 'A' ≤ c && c ≤ 'F' then some (c.toNat - 'A'.toNat + 10)
  else none

/-- The number that hexadecimal digits spell. -/
def hexNumber? (cs : List Char) : Option Nat :=
  cs.foldl (fun n? c => do
    let n ← n?
    let d ← hexValue? c
    some (16 * n + d)) (some 0)

/-- The character that a letter behind a backslash stands for. -/
def escape? : Char → Option Char
  | '"' => some '"'
  | '\\' => some '\\'
  | '/' => some '/'
  | 'b' => some '\x08'
  | 'f' => some '\x0c'
  | 'n' => some '\n'
  | 'r' => some '\r'
  | 't' => some '\t'
  | _ => none

/-- Reads the inside of a text in quotes, given the text from its opening quote on, the code units
read so far in reverse, and how many characters they took.  Gives the code units in order and the
number of characters up to and with the closing quote. -/
def textBody (opening : List Char) (done : List Nat) (taken : Nat) :
    List Char → Except Fault (List Nat × Nat)
  | [] => .error ⟨.unterminated, opening⟩
  | '"' :: _ => .ok (done.reverse, taken + 1)
  | '\\' :: 'u' :: a :: b :: c :: d :: tail =>
    if tail.isEmpty then .error ⟨.badUnit, 'u' :: a :: b :: c :: d :: tail⟩
    else match hexNumber? [a, b, c, d] with
      | some n => textBody opening (n :: done) (taken + 6) tail
      | none => .error ⟨.badUnit, 'u' :: a :: b :: c :: d :: tail⟩
  | '\\' :: 'u' :: tail => .error ⟨.badUnit, 'u' :: tail⟩
  | '\\' :: x :: tail =>
    match escape? x with
    | some c => textBody opening (c.toNat :: done) (taken + 2) tail
    | none => .error ⟨.badEscape, '\\' :: x :: tail⟩
  | ['\\'] => .error ⟨.unterminated, opening⟩
  | c :: tail =>
    if c.toNat < 0x20 then .error ⟨.control, c :: tail⟩
    else textBody opening (c.toNat :: done) (taken + 1) tail

/-- The code points of code units: a pair of surrogates is one character. -/
def ofUnits : List Nat → List Text.CodePoint
  | [] => []
  | [n] => [.ofValue n]
  | n :: m :: ns =>
    if Text.isHighSurrogate n && Text.isLowSurrogate m then .ofValue (Text.joined n m) :: ofUnits ns
    else .ofValue n :: ofUnits (m :: ns)

/-! ### Numbers -/

/-- The whole part of a number: a zero, or digits that do not start with one. -/
def wholePart? : List Char → Option (List Char)
  | [] => none
  | c :: cs =>
    if c = '0' then some ['0']
    else if c.isDigit then some (c :: cs.takeWhile Char.isDigit)
    else none

/-- The digits behind the point, if there is a point with digits. -/
def fractionPart : List Char → List Char
  | '.' :: cs => cs.takeWhile Char.isDigit
  | _ => []

/-- The exponent of a number as it is written: its mark, its sign and its digits, if there are
any. -/
def exponentPart : List Char → List Char
  | c :: cs =>
    if c = 'e' || c = 'E' then
      let sign := cs.takeWhile fun s => s = '+' || s = '-'
      let digits := (cs.drop sign.length).takeWhile Char.isDigit
      if sign.length ≤ 1 && !digits.isEmpty then c :: sign ++ digits else []
    else []
  | [] => []

/-- Reads the number that a text starts with, and how many characters it takes. -/
def number? (cs : List Char) : Option (Token × Nat) := do
  let negative := cs.head? == some '-'
  let body := if negative then cs.drop 1 else cs
  let whole ← wholePart? body
  let rest := body.drop whole.length
  let fraction := fractionPart rest
  let pointed := if fraction.isEmpty then 0 else fraction.length + 1
  let mark := exponentPart (rest.drop pointed)
  let taken := (if negative then 1 else 0) + whole.length + pointed + mark.length
  if fraction.isEmpty && mark.isEmpty && Error.digitLimit < whole.length then
    some (.tooLong whole.length, 0)
  else if fraction.isEmpty && mark.isEmpty then
    let n : Nat := whole.foldl (fun n c => 10 * n + (c.toNat - '0'.toNat)) 0
    some (.scalar (.int (if negative then -(n : Int) else n)), taken)
  else
    let exponent := (Binary64.exponentOfText? (mark.drop 1)).getD 0
    some (.scalar (.float (Binary64.ofParts negative whole fraction exponent)), taken)

/-! ### Cutting -/

/-- The words that are values. -/
def words : List (List Char × Value) :=
  [("null".toList, .null), ("true".toList, .bool true), ("false".toList, .bool false),
    ("NaN".toList, .float .nan), ("Infinity".toList, .float (.infinite false)),
    ("-Infinity".toList, .float (.infinite true))]

/-- The token that a text starts with, and how many characters it takes. -/
def lex (cs : List Char) : Token × Nat :=
  match cs with
  | [] => (.finish, 0)
  | '{' :: _ => (.openBrace, 1)
  | '}' :: _ => (.closeBrace, 1)
  | '[' :: _ => (.openBracket, 1)
  | ']' :: _ => (.closeBracket, 1)
  | ':' :: _ => (.colon, 1)
  | ',' :: _ => (.comma, 1)
  | '"' :: body =>
    match textBody cs [] 1 body with
    | .ok (units, taken) => (.text (Text.ofCodePoints (ofUnits units)), taken)
    | .error f => (.badText f, 0)
  | _ =>
    match number? cs with
    | some found => found
    | none =>
      match words.find? fun w => w.1.isPrefixOf cs with
      | some (w, v) => (.scalar v, w.length)
      | none => (.unknown, 0)

/-- The blanks of JSON: space, tab, line feed and carriage return. -/
def isBlank (c : Char) : Bool := c = ' ' || c = '\t' || c = '\n' || c = '\r'

/-- The tokens of a text in their places.  A token that takes no characters is the last. -/
def lexemes : List Char → List Lexeme
  | [] => [⟨.finish, []⟩]
  | c :: cs =>
    if isBlank c then lexemes cs
    else
      let (token, taken) := lex (c :: cs)
      let this : Lexeme := ⟨token, c :: cs⟩
      if taken = 0 then [this] else this :: lexemes (cs.drop (taken - 1))
termination_by cs => cs.length
decreasing_by
  · simp
  · simp only [List.length_drop, List.length_cons]
    omega

end Json
end KeyCall
