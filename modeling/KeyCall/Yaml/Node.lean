import KeyCall.Yaml.Plain
import KeyCall.Yaml.Token

/-!
# Nodes

The tokens of a text make a tree of nodes: scalars, sequences and mappings.  A reference to a name
is a second copy of the node that bears the name.

## Main definitions

* `Yaml.Node`: a tree.
* `Yaml.Composer`: the tokens that are left, with the names so far.
* `Yaml.Composer.node`: reads one node.
* `Yaml.document?`: the node of a text's one document, if it has one.
-/

namespace KeyCall
namespace Yaml

/-- A tree of scalars, sequences and mappings. -/
inductive Node
  /-- A scalar of a type. -/
  | scalar (type : ScalarType) (text : List Char)
  /-- A sequence. -/
  | sequence (items : List Node)
  /-- A mapping, whose keys need not differ. -/
  | mapping (entries : List (Node × Node))
  /-- A node that stands for no value, and why. -/
  | invalid (problem : String)
  deriving Inhabited

/-! ### Tags -/

/-- What the usual tags start with. -/
def standard : String := "tag:yaml.org,2002:"

/-- The type that a tag gives a scalar. -/
def scalarTypeOfTag? (tag : String) : Option ScalarType :=
  let names := [("null", ScalarType.null), ("bool", .bool), ("int", .int), ("float", .float),
    ("timestamp", .stamp), ("str", .text), ("binary", .bytes), ("merge", .merge),
    ("value", .default)]
  names.findSome? fun (name, t) => if tag == standard ++ name then some t else none

/-- A node whose tag has no meaning for what it is. -/
def foreign (tag : String) : Node :=
  .invalid s!"could not determine a constructor for the tag {tag}"

/-- A scalar with its tag, which its text need not fit.  Without one, or with the tag that has no
name, a plain scalar has the type of its text. -/
def taggedScalar (tag : Option String) (text : List Char) (isPlain : Bool) : Node :=
  match tag with
  | none => .scalar (if isPlain then .ofPlain text else .text) text
  | some t =>
    if t == "!" then .scalar (.ofPlain text) text
    else match scalarTypeOfTag? t with
      | some type => .scalar type text
      | none => foreign t

/-- A sequence with its tag. -/
def taggedSequence (tag : Option String) (items : List Node) : Node :=
  match tag with
  | none => .sequence items
  | some t => if t == "!" || t == standard ++ "seq" then .sequence items else foreign t

/-- A mapping with its tag. -/
def taggedMapping (tag : Option String) (entries : List (Node × Node)) : Node :=
  match tag with
  | none => .mapping entries
  | some t => if t == "!" || t == standard ++ "map" then .mapping entries else foreign t

/-- A scalar that is not written. -/
def emptyScalar : Node := .scalar .null []

/-! ### Reading nodes -/

/-- The tokens that are left, with the names so far. -/
structure Composer where
  /-- The tokens that are left. -/
  tokens : List Token
  /-- What comes behind the last of them, unless that ends the text. -/
  trouble : Option Trouble := none
  /-- The nodes that bear names. -/
  anchors : List (String × Node) := []
  /-- What the handles of tags stand for that directives declare. -/
  handles : List (String × String) := []
  deriving Inhabited

/-- Reading that may fail. -/
abbrev Compose := StateT Composer (Except Trouble)

namespace Composer

/-- The next token.  Trouble with the text counts as soon as a token behind it is needed. -/
def peek : Compose Token := do
  let c ← get
  match c.tokens, c.trouble with
  | t :: _, _ => pure t
  | [], some trouble => throw trouble
  | [], none => pure .finish

/-- Moves over a token. -/
def drop : Compose Unit := modify fun c => { c with tokens := c.tokens.drop 1 }

/-- Fails. -/
def fail {α : Type} (problem : String) : Compose α := throw (.of problem)

/-- What the handles of tags stand for that need no directive. -/
def usualHandles : List (String × String) := [("!", "!"), ("!!", standard)]

/-- The tag that a handle and a suffix make. -/
def tagOf (handle : Option String) (suffix : String) : Compose String := do
  match handle with
  | none => pure suffix
  | some h =>
    let c ← get
    match Entries.get? (· == ·) (c.handles ++ usualHandles) h with
    | some stem => pure (stem ++ suffix)
    | none => fail "found undefined tag handle"

/-- The name in front of a node, if there is one. -/
def anchor? : Compose (Option String) := do
  match ← peek with
  | .anchor name => drop; pure (some name)
  | _ => pure none

/-- The tag in front of a node as it is written, if there is one. -/
def tag? : Compose (Option (Option String × String)) := do
  match ← peek with
  | .tag handle suffix => drop; pure (some (handle, suffix))
  | _ => pure none

/-- The name and the tag in front of a node, in either order. -/
def properties : Compose (Option String × Option String) := do
  let first ← anchor?
  let written ← tag?
  let last ← if first.isNone && written.isSome then anchor? else pure none
  let tag ← written.mapM fun (handle, suffix) => tagOf handle suffix
  pure (first <|> last, tag)

/-- A name must be new when what it names starts. -/
def unused (anchor : Option String) : Compose Unit := do
  let c ← get
  let taken (a : String) : Bool := Entries.has (· == ·) c.anchors a
  if anchor.any taken then fail "found duplicate anchor"

/-- Gives a node its name, which nothing inside of the node may bear. -/
def named (anchor : Option String) (n : Node) : Compose Node := do
  unused anchor
  modify fun c => { c with anchors := (anchor.map fun a => (a, n)).toList ++ c.anchors }
  pure n

/-- Whether a value cannot follow its mark because another part follows. -/
def endsEntry : Token → Bool
  | .key | .value | .blockEnd => true
  | _ => false

mutual

/-- Reads a node.  Collections shown by indentation are possible in a block, and items that are
not indented where `loose` is set. -/
def node (fuel : Nat) (inBlock loose : Bool) : Compose Node :=
  match fuel with
  | 0 => fail "nested too deeply"
  | fuel + 1 => do
    match ← peek with
    | .reference name =>
      drop
      let c ← get
      match Entries.get? (· == ·) c.anchors name with
      | some n => pure n
      | none => fail "found undefined alias"
    | _ =>
      let (anchor, tag) ← properties
      let _ ← peek
      unused anchor
      let n ← content fuel inBlock loose (anchor.isSome || tag.isSome) tag
      named anchor n

/-- Reads what comes behind the name and the tag of a node; with either of them, it may be
missing. -/
def content (fuel : Nat) (inBlock loose mayBeEmpty : Bool) (tag : Option String) :
    Compose Node :=
  match fuel with
  | 0 => fail "nested too deeply"
  | fuel + 1 => do
    match ← peek, inBlock with
    | .scalar text isPlain, _ =>
      drop
      pure (taggedScalar tag text isPlain)
    | .openBracket, _ =>
      drop
      let items ← flowItems fuel true
      pure (taggedSequence tag items)
    | .openBrace, _ =>
      drop
      let entries ← flowEntries fuel true
      pure (taggedMapping tag entries)
    | .blockSequence, true =>
      drop
      let items ← blockItems fuel
      pure (taggedSequence tag items)
    | .blockMapping, true =>
      drop
      let entries ← blockEntries fuel
      pure (taggedMapping tag entries)
    | t, _ =>
      if loose && t == .item then
        let items ← looseItems fuel
        pure (taggedSequence tag items)
      else if mayBeEmpty then pure (taggedScalar tag [] true)
      else fail "expected the node content"

/-- Reads a node unless one of the given tokens follows. -/
def nodeUnless (fuel : Nat) (missing : Token → Bool) (inBlock loose : Bool) : Compose Node :=
  match fuel with
  | 0 => fail "nested too deeply"
  | fuel + 1 => do
    let t ← peek
    if missing t then pure emptyScalar else node fuel inBlock loose

/-- Reads the items of an indented sequence, up to its end. -/
def blockItems (fuel : Nat) : Compose (List Node) :=
  match fuel with
  | 0 => fail "nested too deeply"
  | fuel + 1 => do
    match ← peek with
    | .item =>
      drop
      let n ← nodeUnless fuel (fun t => t == .item || t == .blockEnd) true false
      let ns ← blockItems fuel
      pure (n :: ns)
    | .blockEnd =>
      drop
      pure []
    | _ => fail "expected <block end>"

/-- Reads the items of a sequence that is not indented, as long as there are any. -/
def looseItems (fuel : Nat) : Compose (List Node) :=
  match fuel with
  | 0 => fail "nested too deeply"
  | fuel + 1 => do
    match ← peek with
    | .item =>
      drop
      let n ← nodeUnless fuel (fun t => t == .item || endsEntry t) true false
      let ns ← looseItems fuel
      pure (n :: ns)
    | _ => pure []

/-- Reads the entries of an indented mapping, up to its end. -/
def blockEntries (fuel : Nat) : Compose (List (Node × Node)) :=
  match fuel with
  | 0 => fail "nested too deeply"
  | fuel + 1 => do
    match ← peek with
    | .key =>
      drop
      let k ← nodeUnless fuel endsEntry true true
      let v ← blockValue fuel
      let es ← blockEntries fuel
      pure ((k, v) :: es)
    | .blockEnd =>
      drop
      pure []
    | _ => fail "expected <block end>"

/-- Reads the value of an entry of an indented mapping, which may be missing. -/
def blockValue (fuel : Nat) : Compose Node :=
  match fuel with
  | 0 => fail "nested too deeply"
  | fuel + 1 => do
    match ← peek with
    | .value =>
      drop
      nodeUnless fuel endsEntry true true
    | _ => pure emptyScalar

/-- Reads the items in brackets, up to the closing one; an item with a colon is a mapping of one
entry. -/
def flowItems (fuel : Nat) (first : Bool) : Compose (List Node) :=
  match fuel with
  | 0 => fail "nested too deeply"
  | fuel + 1 => do
    match ← peek, first with
    | .closeBracket, _ =>
      drop
      pure []
    | t, _ =>
      if !first then
        if t == .comma then drop else fail "expected ',' or ']'"
      match ← peek with
      | .closeBracket =>
        drop
        pure []
      | .key =>
        drop
        let missing (t : Token) : Bool := t == .comma || t == .closeBracket
        let k ← nodeUnless fuel (fun t => t == .value || missing t) false false
        let v ← flowValue fuel missing
        let ns ← flowItems fuel false
        pure (.mapping [(k, v)] :: ns)
      | _ =>
        let n ← node fuel false false
        let ns ← flowItems fuel false
        pure (n :: ns)

/-- Reads the entries in braces, up to the closing one. -/
def flowEntries (fuel : Nat) (first : Bool) : Compose (List (Node × Node)) :=
  match fuel with
  | 0 => fail "nested too deeply"
  | fuel + 1 => do
    match ← peek, first with
    | .closeBrace, _ =>
      drop
      pure []
    | t, _ =>
      if !first then
        if t == .comma then drop else fail "expected ',' or a closing brace"
      match ← peek with
      | .closeBrace =>
        drop
        pure []
      | .key =>
        drop
        let missing (t : Token) : Bool := t == .comma || t == .closeBrace
        let k ← nodeUnless fuel (fun t => t == .value || missing t) false false
        let v ← flowValue fuel missing
        let es ← flowEntries fuel false
        pure ((k, v) :: es)
      | _ =>
        let k ← node fuel false false
        let es ← flowEntries fuel false
        pure ((k, emptyScalar) :: es)

/-- Reads the value of an entry in brackets or braces, which may be missing. -/
def flowValue (fuel : Nat) (missing : Token → Bool) : Compose Node :=
  match fuel with
  | 0 => fail "nested too deeply"
  | fuel + 1 => do
    match ← peek with
    | .value =>
      drop
      nodeUnless fuel missing false false
    | _ => pure emptyScalar

end

/-! ### Documents -/

/-- Takes one directive in. -/
def directive (versions : Nat) (t : Token) : Compose Nat := do
  match t with
  | .version major _ =>
    if versions != 0 then fail "found duplicate YAML directive"
    else if major != 1 then fail "found incompatible YAML document"
    else pure 1
  | .handle name stem =>
    let c ← get
    if Entries.has (· == ·) c.handles name then fail "duplicate tag handle"
    else
      set { c with handles := c.handles ++ [(name, stem)] }
      pure versions
  | _ => pure versions

/-- Whether a token is a directive. -/
def isDirective : Token → Bool
  | .version _ _ | .handle _ _ | .directive => true
  | _ => false

/-- Whether a document has no content because the token follows its start. -/
def endsDocument (t : Token) : Bool :=
  isDirective t || t == .documentStart || t == .documentEnd || t == .finish

/-- Takes the directives in front of a document in. -/
def directives : List Token → Nat → Compose Unit
  | [], _ => pure ()
  | t :: ts, versions => do
    let versions ← directive versions t
    drop
    directives ts versions

/-- The node of the one document, if there is one. -/
def document? (fuel : Nat) : Compose (Option Node) := do
  let first ← peek
  if first == .finish then pure none
  else
    let n ←
      if isDirective first || first == .documentStart then do
        let c ← get
        directives (c.tokens.takeWhile isDirective) 0
        let t ← peek
        if t == .documentStart then drop else fail "expected '<document start>'"
        nodeUnless fuel endsDocument true false
      else node fuel true false
    modify fun c => { c with tokens := c.tokens.dropWhile (· == .documentEnd) }
    let last ← peek
    if last == .finish then pure (some n) else fail "expected a single document in the stream"

end Composer

/-- The node of a text's one document, if it has one; `behind` is the trouble that comes behind a
text that breaks off. -/
def document? (text : List Char) (behind : Option Trouble) : Except Trouble (Option Node) := do
  let (tokens, trouble) := tokens text behind
  let (n, _) ← (Composer.document? (4 * tokens.length + 8)).run { tokens, trouble }
  .ok n

end Yaml
end KeyCall
