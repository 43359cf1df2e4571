import KeyCall.Text.Arrival
import KeyCall.Text.Base64
import KeyCall.Yaml.Node

/-!
# Reading YAML

A tree of nodes stands for a value.  The keys of a mapping have to be scalars, and entries with
one key are one entry, as in every mapping.  Entries merged in from other mappings come first, so
that the mapping's own entries win over them.

A tree is made into a value from the top down.  So of several troubles the one that is nearest to
the root counts, and of those on one level the first.

The reader that comes of this stands in for the package when the program is run.  What is proved of
the program does not rest on it.  It has no sets, ordered mappings or lists of pairs, no names for
what is not complete yet, and it nests as deep as the text does.

## Main definitions

* `Yaml.Node.merged`: a tree with its merges carried out.
* `Yaml.Node.value`: the value of a tree.
* `Yaml.Node.troubles`: what keeps a tree from having a value, level by level.
* `Yaml.read`: reads a text.
* `Yaml.builtIn`: the reader that the program is run with.
-/

namespace KeyCall
namespace Yaml

namespace Node

/-! ### Merging -/

/-- Whether a node is the key whose value is merged. -/
def isMerge : Node → Bool
  | .scalar .merge _ => true
  | _ => false

/-- The entries of a mapping that is merged; anything else brings an entry that has no value. -/
def broughtBy : Node → List (Node × Node)
  | .mapping es => es
  | _ => [(.invalid "expected a mapping for merging", emptyScalar)]

/-- The entries that a merged value brings: those of a mapping, or those of a list of mappings, of
which the first win. -/
def broughtIn : Node → List (Node × Node)
  | .sequence ns => ns.reverse.flatMap broughtBy
  | n => broughtBy n

mutual

/-- A tree with its merges carried out. -/
def merged : Node → Node
  | .sequence ns => .sequence (mergedItems ns)
  | .mapping es => .mapping (mergedInto es ++ mergedOwn es)
  | n => n

/-- The items of a sequence with their merges carried out. -/
def mergedItems : List Node → List Node
  | [] => []
  | n :: ns => merged n :: mergedItems ns

/-- The entries that are merged into a mapping. -/
def mergedInto : List (Node × Node) → List (Node × Node)
  | [] => []
  | (k, v) :: es => (if k.isMerge then broughtIn (merged v) else []) ++ mergedInto es

/-- A mapping's own entries. -/
def mergedOwn : List (Node × Node) → List (Node × Node)
  | [] => []
  | (k, v) :: es => if k.isMerge then mergedOwn es else (k, merged v) :: mergedOwn es

end

/-! ### Values -/

/-- The value of a scalar. -/
def scalarValue (type : ScalarType) (text : List Char) : Except Trouble Value :=
  match type with
  | .null => .ok .null
  | .bool => (boolOf text).map .bool
  | .int => (intOf text).map .int
  | .float => (floatOf text).map .float
  | .stamp => stampOf text
  | .bytes =>
    match Text.decode64? text with
    | some bs => .ok (.bytes bs)
    | none => .error (.of "failed to decode base64 data")
  | .text => .ok (.text (String.ofList text))
  | .merge => .error (.of "could not determine a constructor for a merge key")
  | .default => .error (.of "could not determine a constructor for a default value")

/-- The value of a key, which has to be a scalar. -/
def keyValue : Node → Except Trouble Value
  | .scalar .default text => .ok (.text (String.ofList text))
  | .scalar type text => scalarValue type text
  | .invalid problem => .error (.of problem)
  | _ => .error (.of "found unhashable key")

/-- Whether two values are the same key.  There is one value that is not a number, so as a key it is
the same as itself. -/
def sameKey : Value → Value → Bool
  | .float .nan, .float .nan => true
  | k, l => Value.sameKey k l

mutual

/-- The value of a tree. -/
def value : Node → Except Trouble Value
  | .scalar type text => scalarValue type text
  | .sequence ns => (values ns).map .list
  | .mapping es => (entryValues [] es).map (.mapping .plain)
  | .invalid problem => .error (.of problem)

/-- The values of the items of a sequence. -/
def values : List Node → Except Trouble (List Value)
  | [] => .ok []
  | n :: ns => do
    let v ← value n
    let vs ← values ns
    .ok (v :: vs)

/-- Writes the entries of a mapping onto those that are there. -/
def entryValues (done : List (Value × Value)) :
    List (Node × Node) → Except Trouble (List (Value × Value))
  | [] => .ok done
  | (k, v) :: es => do
    let key ← keyValue k
    let w ← value v
    entryValues (Entries.put sameKey done key w) es

end

/-! ### Troubles -/

/-- What is wrong, if anything is. -/
def wrong {α : Type} : Except Trouble α → List Trouble
  | .ok _ => []
  | .error t => [t]

/-- What is wrong with a node itself. -/
def ownTroubles : Node → List Trouble
  | .scalar type text => wrong (scalarValue type text)
  | .invalid problem => [.of problem]
  | _ => []

/-- Joins levels; those of the first list stand in front. -/
def joinLevels : List (List Trouble) → List (List Trouble) → List (List Trouble)
  | [], ls => ls
  | ls, [] => ls
  | l :: ls, m :: ms => (l ++ m) :: joinLevels ls ms

mutual

/-- What is wrong with the nodes of a tree, level by level. -/
def troubles (n : Node) : List (List Trouble) :=
  ownTroubles n :: match n with
    | .sequence ns => itemTroubles ns
    | .mapping es => entryTroubles es
    | _ => []

/-- What is wrong with the items of a sequence. -/
def itemTroubles : List Node → List (List Trouble)
  | [] => []
  | n :: ns => joinLevels (troubles n) (itemTroubles ns)

/-- What is wrong with the entries of a mapping. -/
def entryTroubles : List (Node × Node) → List (List Trouble)
  | [] => []
  | (k, v) :: es =>
    joinLevels (joinLevels [wrong (keyValue k)] (troubles v)) (entryTroubles es)

end

end Node

/-- Reads a text.  A text without a document is null.  If the text breaks off, `behind` is the
trouble that reading it to the end comes to. -/
def read (text : List Char) (behind : Option Trouble) : Except Trouble Value :=
  match document? text behind with
  | .error t => .error t
  | .ok none => .ok .null
  | .ok (some n) =>
    let n := n.merged
    match n.troubles.flatten with
    | t :: _ => .error t
    | [] => n.value

/-- The reader that the program is run with here. -/
def builtIn : Reader := fun arrival =>
  (read arrival.text (arrival.fault.map fun f => .ofError (.undecodable f))).mapError
    Trouble.failure

end Yaml
end KeyCall
