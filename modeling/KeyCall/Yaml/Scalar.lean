import KeyCall.Json.Token
import KeyCall.Yaml.Cursor

/-!
# Scalars as they are written

A scalar is written plainly, in quotes, or as a block of lines.  All three may run over several
lines, whose ends then are folded: a single line end counts for a space, and of several all but
the first count.

## Main definitions

* `Yaml.plain`: a plain scalar.
* `Yaml.quotedScalar`: a scalar in quotes.
* `Yaml.block`: a block of lines, literal or folded.
-/

namespace KeyCall
namespace Yaml

/-- What the end of a line and the ends of the empty lines behind it count for. -/
def folded (lineBreak : List Char) (breaks : List Char) : List Char :=
  (if lineBreak != ['\n'] then lineBreak else if breaks.isEmpty then [' '] else []) ++ breaks

/-! ### Plain scalars -/

/-- Whether a character ends a plain scalar inside of brackets. -/
def endsInFlow (c : Char) : Bool := ",?[]\x7b\x7d".toList.contains c

/-- The longest start of a text that a plain scalar can have on one line: up to a gap, up to a
colon in front of a gap, and inside of brackets up to their punctuation. -/
def plainRun (inFlow : Bool) : List Char → List Char
  | [] => []
  | c :: cs =>
    let after := cs.headD stop
    if isGap c then []
    else if c = ':' && (isGap after || (inFlow && ",[]\x7b\x7d".toList.contains after)) then []
    else if inFlow && endsInFlow c then []
    else c :: plainRun inFlow cs

/-- The ends of empty lines, up to a line that is not empty.  Nothing if a mark between documents
follows. -/
def plainBreaks? : Nat → Cursor → List Char → Option (List Char) × Cursor
  | 0, c, breaks => (some breaks, c)
  | fuel + 1, c, breaks =>
    if c.peek = ' ' then plainBreaks? fuel c.next breaks
    else if isBreak c.peek then
      let (b, c) := c.lineBreak
      if c.atSeparator then (none, c) else plainBreaks? fuel c (breaks ++ b)
    else (some breaks, c)

/-- What the spaces and line ends inside of a plain scalar count for, where the scalar may go on,
and whether a line ended. -/
def plainSpaces (fuel : Nat) (c : Cursor) : List Char × Cursor × Bool :=
  let (spaces, c) := c.run (· = ' ')
  if isBreak c.peek then
    let (b, c) := c.lineBreak
    if c.atSeparator then ([], c, true)
    else match plainBreaks? fuel c [] with
      | (some breaks, c) => (folded b breaks, c, true)
      | (none, c) => ([], c, true)
  else (spaces, c, false)

/-- Reads a plain scalar on from where it may go on, with the text so far and what the gap in front
counts for.  Gives the text, the cursor behind the gap that follows, and whether a line ended
there. -/
def plainFrom (inFlow : Bool) (indent : Int) :
    Nat → Cursor → List Char → List Char → Bool → List Char × Cursor × Bool
  | 0, c, done, _, ended => (done, c, ended)
  | fuel + 1, c, done, gap, ended =>
    let run := if c.peek = '#' then [] else plainRun inFlow c.rest
    if run.isEmpty then (done, c, ended)
    else
      let done := done ++ gap ++ run
      let (gap, c, ended) := plainSpaces fuel (c.skip run.length)
      if gap.isEmpty || c.peek = '#' || (!inFlow && (c.column : Int) < indent) then
        (done, c, ended)
      else plainFrom inFlow indent fuel c done gap ended

/-- Reads a plain scalar whose further lines are indented to `indent` at least. -/
def plain (fuel : Nat) (inFlow : Bool) (indent : Int) (c : Cursor) : List Char × Cursor × Bool :=
  plainFrom inFlow indent fuel c [] [] false

/-! ### Scalars in quotes -/

/-- The character that a letter behind a backslash stands for. -/
def escape? : Char → Option Char
  | '0' => some '\x00'
  | 'a' => some '\x07'
  | 'b' => some '\x08'
  | 't' => some '\t'
  | '\t' => some '\t'
  | 'n' => some '\n'
  | 'v' => some '\x0b'
  | 'f' => some '\x0c'
  | 'r' => some '\r'
  | 'e' => some '\x1b'
  | ' ' => some ' '
  | '"' => some '"'
  | '\\' => some '\\'
  | '/' => some '/'
  | 'N' => some '\x85'
  | '_' => some '\xa0'
  | 'L' => some '\u2028'
  | 'P' => some '\u2029'
  | _ => none

/-- How many hexadecimal digits spell a character behind a letter. -/
def escapeWidth? : Char → Option Nat
  | 'x' => some 2
  | 'u' => some 4
  | 'U' => some 8
  | _ => none

/-- The ends of empty lines inside of quotes. -/
def quotedBreaks : Nat → Cursor → List Char → Except Trouble (List Char × Cursor)
  | 0, c, breaks => .ok (breaks, c)
  | fuel + 1, c, breaks =>
    if c.atSeparator then .error (c.fault "found unexpected document separator")
    else
      let c := c.skipWhile fun x => x = ' ' || x = '\t'
      if isBreak c.peek then
        let (b, c) := c.lineBreak
        quotedBreaks fuel c (breaks ++ b)
      else .ok (breaks, c)

/-- The code point of a number that is spelled.  Numbers of more than 31 bits are no numbers of code
points at all. -/
def spelledPoint (n : Nat) : Except Trouble Text.CodePoint :=
  if n < 0x110000 then .ok (.ofValue n)
  else if n < 0x80000000 then .error (.ofValue "chr() arg not in range(0x110000)")
  else .error (.other "OverflowError" "Python int too large to convert to C int")

/-- The code points spelled behind a backslash, and the cursor behind them; a line end counts for
nothing but the empty lines that follow. -/
def quotedEscape (fuel : Nat) (c : Cursor) : Except Trouble (List Text.CodePoint × Cursor) :=
  let x := c.peek
  match escape? x, escapeWidth? x with
  | some y, _ => .ok ([.char y], c.next)
  | none, some width =>
    let c := c.next
    let digits := c.rest.take width
    match Json.hexNumber? digits with
    | some n =>
      if digits.length < width then .error (c.fault "expected hexadecimal digits")
      else do
        let p ← spelledPoint n
        .ok ([p], c.skip width)
    | none => .error (c.fault "expected hexadecimal digits")
  | none, none =>
    if isBreak x then do
      let (breaks, c) ← quotedBreaks fuel c.lineBreak.2 []
      .ok (breaks.map .char, c)
    else .error (c.fault "found unknown escape character")

/-- Reads the inside of quotes up to and with the closing one; `done` holds the code points so far
in reverse. -/
def quotedFrom (double : Bool) :
    Nat → Cursor → List Text.CodePoint → Except Trouble (List Char × Cursor)
  | 0, c, _ => .error (c.fault "found unexpected end of stream")
  | fuel + 1, c, done =>
    let x := c.peek
    if x = stop then .error (c.fault "found unexpected end of stream")
    else if x = ' ' || x = '\t' then
      let (spaces, c) := c.run fun x => x = ' ' || x = '\t'
      if isBreak c.peek then quotedFrom double fuel c done
      else quotedFrom double fuel c ((spaces.map .char).reverse ++ done)
    else if isBreak x then
      let (b, c) := c.lineBreak
      match quotedBreaks fuel c [] with
      | .error t => .error t
      | .ok (breaks, c) => quotedFrom double fuel c (((folded b breaks).map .char).reverse ++ done)
    else if double then
      if x = '"' then .ok (Text.spelled done.reverse, c.next)
      else if x = '\\' then
        match quotedEscape fuel c.next with
        | .error t => .error t
        | .ok (ps, c) => quotedFrom double fuel c (ps.reverse ++ done)
      else quotedFrom double fuel c.next (.char x :: done)
    else if x = '\'' then
      if c.peekAt 1 = '\'' then quotedFrom double fuel (c.skip 2) (.char '\'' :: done)
      else .ok (Text.spelled done.reverse, c.next)
    else quotedFrom double fuel c.next (.char x :: done)

/-- Reads a scalar in quotes, from the opening one on. -/
def quotedScalar (fuel : Nat) (c : Cursor) : Except Trouble (List Char × Cursor) :=
  quotedFrom (c.peek = '"') fuel c.next []

/-! ### Blocks of lines -/

/-- What becomes of the line ends at the end of a block. -/
inductive Chomping
  /-- One is kept. -/
  | clip
  /-- All are kept. -/
  | keep
  /-- None is kept. -/
  | strip
  deriving DecidableEq, Repr, Inhabited

/-- The sign that says what becomes of the line ends, if the cursor is at one. -/
def chomping? (c : Cursor) : Option Chomping :=
  if c.peek = '+' then some .keep else if c.peek = '-' then some .strip else none

/-- The digit that says how deep a block is indented, if the cursor is at one. -/
def increment? (c : Cursor) : Option Nat :=
  if c.peek.isDigit then some (c.peek.toNat - '0'.toNat) else none

/-- Moves on if something was found. -/
def past {α : Type} (found : Option α) (c : Cursor) : Cursor := if found.isSome then c.next else c

/-- The header of a block: its sign and its digit, in either order. -/
def blockHeader (c : Cursor) : Except Trouble (Chomping × Option Nat × Cursor) :=
  let sign := chomping? c
  let c := past sign c
  let digit := increment? c
  let c := past digit c
  let late := if sign.isSome then none else chomping? c
  let c := past (if digit.isSome then late else none) c
  if digit = some 0 then .error (c.fault "expected indentation indicator in the range 1-9")
  else if !isSpaceOrEnd c.peek then
    .error (c.fault "expected chomping or indentation indicators")
  else
    let c := c.skipWhile (· = ' ')
    let c := if c.peek = '#' then c.skipWhile (!isLineEnd ·) else c
    if !isLineEnd c.peek then .error (c.fault "expected a comment or a line break")
    else
      let chomping := (sign <|> (if digit.isSome then late else none)).getD .clip
      .ok (chomping, digit, c.lineBreak.2)

/-- The empty lines in front of a block, and the deepest column that the cursor reaches. -/
def leadingBreaks : Nat → Cursor → List Char → Nat → List Char × Nat × Cursor
  | 0, c, breaks, deepest => (breaks, deepest, c)
  | fuel + 1, c, breaks, deepest =>
    if c.peek = ' ' then
      let c := c.next
      leadingBreaks fuel c breaks (max deepest c.column)
    else if isBreak c.peek then
      let (b, c) := c.lineBreak
      leadingBreaks fuel c (breaks ++ b) deepest
    else (breaks, deepest, c)

/-- The empty lines inside of a block, up to a line indented to `indent`. -/
def blockBreaks (indent : Nat) : Nat → Cursor → List Char → List Char × Cursor
  | 0, c, breaks => (breaks, c)
  | fuel + 1, c, breaks =>
    let c := c.skipSpaces indent
    if isBreak c.peek then
      let (b, c) := c.lineBreak
      blockBreaks indent fuel c (breaks ++ b)
    else (breaks, c)

/-- Reads the lines of a block: the text so far, the line end and the empty lines in front of the
next line. -/
def blockLines (fold : Bool) (indent : Nat) :
    Nat → Cursor → List Char → List Char → List Char →
      List Char × List Char × List Char × Cursor
  | 0, c, done, lineBreak, breaks => (done, lineBreak, breaks, c)
  | fuel + 1, c, done, lineBreak, breaks =>
    if c.column = indent && c.peek != stop then
      let flush := !(c.peek = ' ' || c.peek = '\t')
      let (line, c) := c.run (!isLineEnd ·)
      let done := done ++ breaks ++ line
      let (lineBreak, c) := c.lineBreak
      let (breaks, c) := blockBreaks indent fuel c []
      if c.column = indent && c.peek != stop then
        let joins := fold && lineBreak == ['\n'] && flush && !(c.peek = ' ' || c.peek = '\t')
        let gap := if joins then (if breaks.isEmpty then [' '] else []) else lineBreak
        blockLines fold indent fuel c (done ++ gap) lineBreak breaks
      else (done, lineBreak, breaks, c)
    else (done, lineBreak, breaks, c)

/-- Reads a block of lines, from its mark on, inside of an indentation. -/
def block (fuel : Nat) (outer : Int) (c : Cursor) : Except Trouble (List Char × Cursor) := do
  let fold := c.peek = '>'
  let (chomping, digit, c) ← blockHeader c.next
  let least := max 1 (outer + 1).toNat
  let (indent, breaks, c) := match digit with
    | none =>
      let (breaks, deepest, c) := leadingBreaks fuel c [] 0
      (max least deepest, breaks, c)
    | some n =>
      let indent := least + n - 1
      let (breaks, c) := blockBreaks indent fuel c []
      (indent, breaks, c)
  let (text, lineBreak, breaks, c) := blockLines fold indent fuel c [] [] breaks
  let text := if chomping = .strip then text else text ++ lineBreak
  .ok (if chomping = .keep then text ++ breaks else text, c)

end Yaml
end KeyCall
