import KeyCall.Yaml.Scalar

/-!
# The tokens of a YAML text

A YAML text is cut into tokens: marks, brackets, names and scalars, and besides them tokens for
where a collection starts and ends that is shown by indentation alone.  Whether a scalar or a
bracket starts an entry of a mapping is only known at the colon behind it.  So each level of
brackets remembers the last place where a key could have started, and at the colon the tokens for
the key, and for the start of the mapping where there is none yet, are put in there.

Tokens in front of all such places are settled.  If the text cannot be cut any further, they are
given all the same, and the trouble counts only for a reader who needs another one: what is wrong
with the order of the tokens in front of it counts first.

## Main definitions

* `Yaml.Token`: the tokens.
* `Yaml.PossibleKey`: a place where a key could have started.
* `Yaml.Scanner`: the tokens so far, and what decides about the next ones.
* `Yaml.Scanner.fetch`: reads one token.
* `Yaml.Scanner.settledTokens`: the tokens that nothing can be put in front of.
* `Yaml.tokens`: the tokens of a text, and the trouble behind them.
-/

namespace KeyCall
namespace Yaml

/-- A token of a YAML text. -/
inductive Token
  /-- The directive of the version, with its two numbers. -/
  | version (major minor : Nat)
  /-- The directive that gives tags a handle. -/
  | handle (name stem : String)
  /-- A directive of any other name. -/
  | directive
  /-- The mark in front of a document. -/
  | documentStart
  /-- The mark behind a document. -/
  | documentEnd
  /-- The start of a sequence shown by indentation. -/
  | blockSequence
  /-- The start of a mapping shown by indentation. -/
  | blockMapping
  /-- The end of a collection shown by indentation. -/
  | blockEnd
  /-- An opening bracket. -/
  | openBracket
  /-- A closing bracket. -/
  | closeBracket
  /-- An opening brace. -/
  | openBrace
  /-- A closing brace. -/
  | closeBrace
  /-- The hyphen of an item. -/
  | item
  /-- A comma inside of brackets. -/
  | comma
  /-- The start of a key. -/
  | key
  /-- The colon in front of a value. -/
  | value
  /-- A name for the node that follows. -/
  | anchor (name : String)
  /-- A node named before. -/
  | reference (name : String)
  /-- The tag of the node that follows. -/
  | tag (handle : Option String) (suffix : String)
  /-- A scalar, and whether it is written plainly. -/
  | scalar (text : List Char) (isPlain : Bool)
  /-- The end of the text. -/
  | finish
  deriving DecidableEq, Repr, Inhabited

/-- A place where a key could have started. -/
structure PossibleKey where
  /-- The number of tokens in front. -/
  tokens : Nat
  /-- Whether there must be a key: an entry of a mapping has to start there. -/
  required : Bool
  /-- The place. -/
  place : Cursor
  deriving Repr, Inhabited

/-- The tokens so far, and what decides about the next ones. -/
structure Scanner where
  /-- The place in the text. -/
  cursor : Cursor
  /-- The tokens in reverse. -/
  tokens : List Token := []
  /-- The number of tokens. -/
  count : Nat := 0
  /-- The possible keys of the levels of brackets, the innermost first. -/
  keys : List (Option PossibleKey) := [none]
  /-- The column that the innermost collection is indented to; none yet is in front of all. -/
  indent : Int := -1
  /-- The indentations of the collections around it. -/
  outer : List Int := []
  /-- Whether a key may start at the next token. -/
  allowKey : Bool := true
  deriving Inhabited

namespace Scanner

/-- Whether the cursor is inside of brackets. -/
def inFlow (s : Scanner) : Bool := 1 < s.keys.length

/-- Appends a token. -/
def push (s : Scanner) (t : Token) : Scanner :=
  { s with tokens := t :: s.tokens, count := s.count + 1 }

/-- Puts a token in behind the first `n` ones. -/
def insertAt (s : Scanner) (n : Nat) (t : Token) : Scanner :=
  let back := s.count - n
  { s with tokens := s.tokens.take back ++ t :: s.tokens.drop back, count := s.count + 1 }

/-- Moves on. -/
def skip (s : Scanner) (n : Nat) : Scanner := { s with cursor := s.cursor.skip n }

/-- Allows or forbids a key at the next token. -/
def allow (s : Scanner) (b : Bool) : Scanner := { s with allowKey := b }

/-! ### Possible keys -/

/-- A key must fit on one line of 1024 characters. -/
def staleKey (c : Cursor) (k : PossibleKey) : Bool :=
  k.place.line != c.line || 1024 < c.index - k.place.index

/-- The fault of a key without its colon. -/
def missingColon (s : Scanner) : Trouble := s.cursor.fault "could not find expected ':'"

/-- Forgets the possible keys that the cursor has left behind. -/
def dropStale (s : Scanner) : Except Trouble Scanner :=
  let stale : Option PossibleKey → Bool
    | some k => staleKey s.cursor k
    | none => false
  if s.keys.any fun k => stale k && k.any (·.required) then .error s.missingColon
  else .ok { s with keys := s.keys.map fun k => if stale k then none else k }

/-- Forgets the possible key of the innermost level. -/
def dropKey (s : Scanner) : Except Trouble Scanner :=
  match s.keys with
  | some k :: rest =>
    if k.required then .error s.missingColon else .ok { s with keys := none :: rest }
  | _ => .ok s

/-- Remembers that a key could start at the cursor, if it may. -/
def saveKey (s : Scanner) : Except Trouble Scanner :=
  if s.allowKey then do
    let required := !s.inFlow && s.indent == (s.cursor.column : Int)
    let s ← s.dropKey
    .ok { s with keys := some ⟨s.count, required, s.cursor⟩ :: s.keys.drop 1 }
  else .ok s

/-! ### Indentation -/

/-- Ends the collections that are indented deeper than to `column`. -/
def unwindTo (column : Int) : List Int → Scanner → Scanner
  | [], s => s
  | i :: is, s =>
    if column < s.indent then
      unwindTo column is { s.push .blockEnd with indent := i, outer := is }
    else s

/-- Ends the collections that are indented deeper than to `column`; inside of brackets,
indentation does not count. -/
def unwind (s : Scanner) (column : Int) : Scanner :=
  if s.inFlow then s else unwindTo column s.outer s

/-- Whether a collection indented to `column` would be a new one. -/
def deeper (s : Scanner) (column : Nat) : Bool := s.indent < (column : Int)

/-- Indents to `column`. -/
def indentTo (s : Scanner) (column : Nat) : Scanner :=
  { s with indent := column, outer := s.indent :: s.outer }

/-- Starts a collection at the cursor, if it is indented deeper than the innermost one. -/
def startBlock (s : Scanner) (t : Token) : Scanner :=
  let column := s.cursor.column
  if s.deeper column then (s.indentTo column).push t else s

/-! ### Marks and brackets -/

/-- A mark between documents ends everything. -/
def fetchMarker (s : Scanner) (t : Token) : Except Trouble Scanner := do
  let s ← (s.unwind (-1)).dropKey
  .ok ((s.allow false).skip 3 |>.push t)

/-- The end of the text ends everything. -/
def fetchEnd (s : Scanner) : Except Trouble Scanner := do
  let s ← (s.unwind (-1)).dropKey
  .ok (s.push .finish)

/-- An opening bracket or brace. -/
def fetchOpen (s : Scanner) (t : Token) : Except Trouble Scanner := do
  let s ← s.saveKey
  let s := { s with keys := none :: s.keys }
  .ok ((s.allow true).skip 1 |>.push t)

/-- A closing bracket or brace. -/
def fetchClose (s : Scanner) (t : Token) : Except Trouble Scanner := do
  let s ← s.dropKey
  if s.inFlow then
    let s := { s with keys := s.keys.drop 1 }
    .ok ((s.allow false).skip 1 |>.push t)
  else .error (s.cursor.fault "found a closing bracket without an opening one")

/-- A comma inside of brackets. -/
def fetchComma (s : Scanner) : Except Trouble Scanner := do
  let s ← (s.allow true).dropKey
  .ok ((s.skip 1).push .comma)

/-- The hyphen of an item. -/
def fetchItem (s : Scanner) : Except Trouble Scanner := do
  let s ←
    if s.inFlow then .ok s
    else if s.allowKey then .ok (s.startBlock .blockSequence)
    else .error (s.cursor.fault "sequence entries are not allowed here")
  let s ← (s.allow true).dropKey
  .ok ((s.skip 1).push .item)

/-- The question mark in front of a key. -/
def fetchKey (s : Scanner) : Except Trouble Scanner := do
  let s ←
    if s.inFlow then .ok s
    else if s.allowKey then .ok (s.startBlock .blockMapping)
    else .error (s.cursor.fault "mapping keys are not allowed here")
  let s ← (s.allow (!s.inFlow)).dropKey
  .ok ((s.skip 1).push .key)

/-- The colon in front of a value.  If a key could have started in front of it, one did. -/
def fetchValue (s : Scanner) : Except Trouble Scanner :=
  match s.keys with
  | some k :: rest =>
    let s := { s with keys := none :: rest }
    let s := s.insertAt k.tokens .key
    let column := k.place.column
    let s :=
      if !s.inFlow && s.deeper column then (s.indentTo column).insertAt k.tokens .blockMapping
      else s
    .ok ((s.allow false).skip 1 |>.push .value)
  | _ => do
    let s ←
      if s.inFlow then .ok s
      else if s.allowKey then .ok (s.startBlock .blockMapping)
      else .error (s.cursor.fault "mapping values are not allowed here")
    .ok ((s.allow (!s.inFlow)).skip 1 |>.push .value)

/-! ### Names and tags -/

/-- The characters of names. -/
def isNameChar (c : Char) : Bool := c.isAlphanum || c = '-' || c = '_'

/-- A name behind a mark. -/
def fetchName (s : Scanner) (t : String → Token) : Except Trouble Scanner := do
  let s ← s.saveKey
  let (name, c) := s.cursor.next.run isNameChar
  if name.isEmpty then .error (c.fault "expected alphabetic or numeric character")
  else if isGap c.peek || "?:,]\x7d%@\x60".toList.contains c.peek then
    .ok ({ s.allow false with cursor := c }.push (t (String.ofList name)))
  else .error (c.fault "expected alphabetic or numeric character")

/-- The characters of a tag's suffix. -/
def isUriChar (c : Char) : Bool :=
  c.isAlphanum || "-;/?:@&=+$,_.!~*'()[]%".toList.contains c

/-- The tag of a node. -/
def fetchTag (s : Scanner) : Except Trouble Scanner := do
  let s ← s.saveKey
  let c := s.cursor
  let (handle, suffix, c) ←
    if c.peekAt 1 = '<' then
      let (suffix, c) := (c.skip 2).run isUriChar
      if suffix.isEmpty || c.peek != '>' then .error (c.fault "expected '>'")
      else .ok (none, suffix, c.next)
    else if isGap (c.peekAt 1) then .ok (none, ['!'], c.next)
    else
      let (name, after) := c.next.run isNameChar
      let (handle, c) :=
        if after.peek = '!' then ('!' :: name ++ ['!'], after.next) else (['!'], c.next)
      let (suffix, c) := c.run isUriChar
      if suffix.isEmpty then .error (c.fault "expected URI")
      else .ok (some (String.ofList handle), suffix, c)
  if isSpaceOrEnd c.peek then
    .ok ({ s.allow false with cursor := c }.push (.tag handle (String.ofList suffix)))
  else .error (c.fault "expected ' '")

/-! ### Directives -/

/-- A number of a directive. -/
def number (c : Cursor) : Except Trouble (Nat × Cursor) :=
  let (ds, c) := c.run Char.isDigit
  if ds.isEmpty then .error (c.fault "expected a digit")
  else .ok (ds.foldl (fun n d => 10 * n + (d.toNat - '0'.toNat)) 0, c)

/-- What a directive says, by its name. -/
def directiveOf (name : List Char) (c : Cursor) : Except Trouble (Token × Cursor) :=
  let c' := c.skipWhile (· = ' ')
  if name == "YAML".toList then do
    let (major, c) ← number c'
    if c.peek != '.' then .error (c.fault "expected a digit or '.'")
    else
      let (minor, c) ← number c.next
      if isSpaceOrEnd c.peek then .ok (.version major minor, c)
      else .error (c.fault "expected a digit or ' '")
  else if name == "TAG".toList then
    let (handle, c) := c'.run fun x => isNameChar x || x = '!'
    let c := c.skipWhile (· = ' ')
    let (stem, c) := c.run isUriChar
    if handle.isEmpty || stem.isEmpty || !isSpaceOrEnd c.peek then
      .error (c.fault "expected a handle and its meaning")
    else .ok (.handle (String.ofList handle) (String.ofList stem), c)
  else .ok (.directive, c.skipWhile (!isLineEnd ·))

/-- A directive, on a line of its own. -/
def fetchDirective (s : Scanner) : Except Trouble Scanner := do
  let s ← (s.unwind (-1)).dropKey
  let (name, c) := s.cursor.next.run isNameChar
  if name.isEmpty || !isSpaceOrEnd c.peek then
    .error (c.fault "expected alphabetic or numeric character")
  else
    let (t, c) ← directiveOf name c
    let c := c.skipWhile (· = ' ')
    let c := if c.peek = '#' then c.skipWhile (!isLineEnd ·) else c
    if isLineEnd c.peek then
      .ok ({ s.allow false with cursor := c.lineBreak.2 }.push t)
    else .error (c.fault "expected a comment or a line break")

/-! ### Scalars -/

/-- A block of lines. -/
def fetchBlock (fuel : Nat) (s : Scanner) : Except Trouble Scanner := do
  let s ← (s.allow true).dropKey
  let (text, c) ← block fuel s.indent s.cursor
  .ok ({ s with cursor := c }.push (.scalar (Text.spelledCharacters text) false))

/-- A scalar in quotes. -/
def fetchQuoted (fuel : Nat) (s : Scanner) : Except Trouble Scanner := do
  let s ← s.saveKey
  let (text, c) ← quotedScalar fuel s.cursor
  .ok ({ s.allow false with cursor := c }.push (.scalar text false))

/-- A plain scalar; behind the end of a line, a key may start. -/
def fetchPlain (fuel : Nat) (s : Scanner) : Except Trouble Scanner := do
  let s ← s.saveKey
  let (text, c, ended) := plain fuel s.inFlow (s.indent + 1) s.cursor
  let s := { s.allow ended with cursor := c }
  .ok (s.push (.scalar (Text.spelledCharacters text) true))

/-- Whether a plain scalar can start at the cursor. -/
def atPlain (s : Scanner) : Bool :=
  let x := s.cursor.peek
  if isGap x || "-?:,[]\x7b\x7d#&*!|>'\"%@\x60".toList.contains x then
    !isGap (s.cursor.peekAt 1) && (x = '-' || (!s.inFlow && (x = '?' || x = ':')))
  else true

/-! ### The next token -/

/-- Moves over spaces, comments and line ends.  Outside of brackets, a key may start on a new
line. -/
def toNextToken : Nat → Scanner → Scanner
  | 0, s => s
  | fuel + 1, s =>
    let c := s.cursor.skipWhile (· = ' ')
    let c := if c.peek = '#' then c.skipWhile (!isLineEnd ·) else c
    if isBreak c.peek then
      toNextToken fuel
        { s with cursor := c.lineBreak.2, allowKey := if s.inFlow then s.allowKey else true }
    else { s with cursor := c }

/-- Reads one token, and the tokens for collections that start or end with it. -/
def fetch (fuel : Nat) (s : Scanner) : Except Trouble Scanner := do
  let s ← (toNextToken fuel s).dropStale
  let c := s.cursor
  let s := s.unwind c.column
  let x := c.peek
  let gapNext := isGap (c.peekAt 1)
  if x = stop then s.fetchEnd
  else if x = '%' && c.column == 0 then s.fetchDirective
  else if c.column == 0 && c.atMarker '-' then s.fetchMarker .documentStart
  else if c.column == 0 && c.atMarker '.' then s.fetchMarker .documentEnd
  else if x = '[' then s.fetchOpen .openBracket
  else if x = '{' then s.fetchOpen .openBrace
  else if x = ']' then s.fetchClose .closeBracket
  else if x = '}' then s.fetchClose .closeBrace
  else if x = ',' then s.fetchComma
  else if x = '-' && gapNext then s.fetchItem
  else if x = '?' && (s.inFlow || gapNext) then s.fetchKey
  else if x = ':' && (s.inFlow || gapNext) then s.fetchValue
  else if x = '*' then s.fetchName .reference
  else if x = '&' then s.fetchName .anchor
  else if x = '!' then s.fetchTag
  else if (x = '|' || x = '>') && !s.inFlow then s.fetchBlock fuel
  else if x = '\'' || x = '"' then s.fetchQuoted fuel
  else if s.atPlain then s.fetchPlain fuel
  else .error (c.fault "found a character that cannot start any token")

/-- The number of tokens that are settled.  A token is not, as long as a key could still start in
front of it. -/
def settled (s : Scanner) : Nat :=
  s.keys.foldl (fun n k => match k with
    | some k => if staleKey s.cursor k then n else min n k.tokens
    | none => n) s.count

/-- The tokens that are settled, in order. -/
def settledTokens (s : Scanner) : List Token := s.tokens.reverse.take s.settled

/-- Whether a fault is at the end of the text. -/
def isAtEnd (s : Scanner) (f : Fault) : Bool :=
  let c := s.cursor.skip s.cursor.rest.length
  f.place == some (c.line, c.column)

/-- One step of reading, where `behind` is the trouble at the end of the text, if the text only
breaks off there.  It counts as soon as the end is reached. -/
def step (fuel : Nat) (behind : Option Trouble) (s : Scanner) : Except Trouble Scanner :=
  match s.fetch fuel, behind with
  | .ok next, some t => if next.cursor.rest.isEmpty then .error t else .ok next
  | .error (.fault f), some t => .error (if s.isAtEnd f then t else .fault f)
  | result, _ => result

/-- Reads tokens up to the end of the text.  If there is trouble on the way, the tokens that were
settled before it are given with it. -/
def fetchAll (behind : Option Trouble) : Nat → Scanner → List Token × Option Trouble
  | 0, s => (s.tokens.reverse, none)
  | fuel + 1, s =>
    match s.tokens with
    | .finish :: _ => (s.tokens.reverse, none)
    | _ =>
      match s.step (fuel + 1) behind with
      | .error t => (s.settledTokens, some t)
      | .ok s => fetchAll behind fuel s

end Scanner

/-- Whether a character may stand in a YAML text at all. -/
def isAllowed (c : Char) : Bool :=
  let n := c.toNat
  n == 0x09 || n == 0x0A || n == 0x0D || (0x20 ≤ n && n ≤ 0x7E) || n == 0x85 ||
    (0xA0 ≤ n && n ≤ 0xFFFD) || 0x10000 ≤ n

/-- The tokens of a text, up to the first trouble if there is any; `behind` is the trouble that
comes behind a text that breaks off.  Every token but the last takes at least one character. -/
def tokens (text : List Char) (behind : Option Trouble) : List Token × Option Trouble :=
  if !text.all isAllowed then ([], some (.of "special characters are not allowed"))
  else
    let text := match text with
      | '\ufeff' :: rest => rest
      | text => text
    Scanner.fetchAll behind (text.length + 2) { cursor := { rest := text } }

end Yaml
end KeyCall
