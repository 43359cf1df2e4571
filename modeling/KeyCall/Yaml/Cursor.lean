import KeyCall.Error
import KeyCall.Yaml.Reader

/-!
# Cursors

A YAML text is read with a cursor, which knows its line and its column besides the text that is
left, since the indentation of a line is part of what it says.

## Main definitions

* `Yaml.Cursor`: a place in a text.
* `Yaml.Cursor.skip`, `Yaml.Cursor.run`: moves over characters.
* `Yaml.Cursor.lineBreak`: moves over the end of a line.
* `Yaml.Fault`, `Yaml.Trouble`: what is wrong with a text, and why it has no value.
* `Yaml.isBreak`, `Yaml.isGap`: the characters that end a line or a word.
-/

namespace KeyCall
namespace Yaml

/-- The characters that end a line. -/
def isBreak (c : Char) : Bool :=
  c = '\n' || c = '\r' || c = '\x85' || c = '\u2028' || c = '\u2029'

/-- The character that stands behind the end of a text. -/
def stop : Char := '\x00'

/-- The end of a line or of the text. -/
def isLineEnd (c : Char) : Bool := isBreak c || c = stop

/-- The end of a line or of the text, or a space. -/
def isSpaceOrEnd (c : Char) : Bool := isLineEnd c || c = ' '

/-- The end of a line or of the text, a space or a tab. -/
def isGap (c : Char) : Bool := isSpaceOrEnd c || c = '\t'

/-- A place in a text. -/
structure Cursor where
  /-- The text that is left. -/
  rest : List Char
  /-- The number of characters in front. -/
  index : Nat := 0
  /-- The number of lines in front. -/
  line : Nat := 0
  /-- The number of characters in front on the same line. -/
  column : Nat := 0
  deriving Repr, Inhabited

/-- What is wrong with a text, and where, if that is a place in the text. -/
structure Fault where
  /-- What is wrong. -/
  problem : String
  /-- The line and the column, from zero. -/
  place : Option (Nat × Nat) := none
  deriving DecidableEq, Repr, Inhabited

/-- The wording of a fault, with line and column from one. -/
def Fault.message (f : Fault) : String :=
  match f.place with
  | none => f.problem
  | some (line, column) => s!"{f.problem} at line {line + 1}, column {column + 1}"

/-- Why a text stands for no value. -/
inductive Trouble
  /-- It is not well-formed. -/
  | fault (f : Fault)
  /-- Reading it raises something else. -/
  | other (label message : String)
  deriving Inhabited

/-- The trouble of a problem without a place. -/
def Trouble.of (problem : String) : Trouble := .fault ⟨problem, none⟩

/-- The trouble of an error. -/
def Trouble.ofError (e : Error) : Trouble := .other e.kind.label e.message

/-- The trouble of a value that is out of the range of its type. -/
def Trouble.ofValue (message : String) : Trouble := .other ErrorKind.value.label message

/-- The failure that a trouble comes to. -/
def Trouble.failure : Trouble → Failure
  | .fault f => .malformed f.message
  | .other label message => .other label message

namespace Cursor

/-- The next character. -/
def peek (c : Cursor) : Char := c.rest.headD stop

/-- The character `n` places ahead. -/
def peekAt (c : Cursor) (n : Nat) : Char := c.rest.getD n stop

/-- A fault at the cursor. -/
def fault (c : Cursor) (problem : String) : Trouble := .fault ⟨problem, some (c.line, c.column)⟩

/-- Moves over one character.  A byte order mark takes no column. -/
def next (c : Cursor) : Cursor :=
  match c.rest with
  | [] => c
  | x :: rest =>
    if isBreak x then ⟨rest, c.index + 1, c.line + 1, 0⟩
    else ⟨rest, c.index + 1, c.line, if x = '\ufeff' then c.column else c.column + 1⟩

/-- Moves over some characters. -/
def skip : Nat → Cursor → Cursor
  | 0, c => c
  | n + 1, c => skip n c.next

/-- Moves over the longest run of characters in `p`, and gives them. -/
def run (p : Char → Bool) (c : Cursor) : List Char × Cursor :=
  let cs := c.rest.takeWhile p
  (cs, c.skip cs.length)

/-- Moves over the longest run of characters in `p`. -/
def skipWhile (p : Char → Bool) (c : Cursor) : Cursor := (c.run p).2

/-- Moves over the spaces, as long as the column is less than `limit`. -/
def skipSpaces (limit : Nat) (c : Cursor) : Cursor :=
  let n := (c.rest.takeWhile (· = ' ')).length
  c.skip (min n (limit - c.column))

/-- Moves over the end of a line, if the cursor is at one, and gives what it counts for: a line
feed, but for the two separators of Unicode, which stay as they are. -/
def lineBreak (c : Cursor) : List Char × Cursor :=
  match c.rest with
  | '\r' :: '\n' :: _ => (['\n'], c.skip 2)
  | x :: _ =>
    if x = '\u2028' || x = '\u2029' then ([x], c.next)
    else if isBreak x then (['\n'], c.next)
    else ([], c)
  | [] => ([], c)

/-- Whether the cursor is at three characters `x` and a gap. -/
def atMarker (x : Char) (c : Cursor) : Bool :=
  (c.rest.take 3 == [x, x, x]) && isGap (c.peekAt 3)

/-- Whether the cursor is at a mark between documents. -/
def atSeparator (c : Cursor) : Bool := c.atMarker '-' || c.atMarker '.'

end Cursor
end Yaml
end KeyCall
