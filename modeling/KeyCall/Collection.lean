import KeyCall.Dispatch

/-!
# The walk over a collection

A collection is walked depth first.  In a mapping, an entry that holds a collection keeps its key,
and every other entry is processed; what the entries give is written into a fresh mapping in turn,
so that of two entries with one output key the later wins in the place of the earlier.  The items
of a list or a tuple have no keys, so only those that are collections change.

Validation is a walk of its own, which reads every template without calling anything.

Both walks are recursions, and here they go as deep as the collection does.  Where the stack gives
out on the way is said by the surroundings of a command line.

## Main definitions

* `Value.scalarEntries`: the entries that hold scalars, in the order of the walk.
* `Handler.processCollection`: processes a collection, handing its templates to a handler.
* `Dispatcher.processCollection`: the same with a dispatcher as the handler.
* `checkKey`, `validateCollection`: reads the templates of a collection.
-/

namespace KeyCall

/-! ### What is walked -/

namespace Value

mutual

/-- The entries of all mappings in a value that hold scalars, in the order of the walk. -/
def scalarEntries : Value → List (Value × Value)
  | .list xs => scalarEntriesOfItems xs
  | .tuple xs => scalarEntriesOfItems xs
  | .mapping _ es => scalarEntriesOfEntries es
  | _ => []

/-- The scalar entries under the items of a list. -/
def scalarEntriesOfItems : List Value → List (Value × Value)
  | [] => []
  | x :: xs => scalarEntries x ++ scalarEntriesOfItems xs

/-- The scalar entries among and under the entries of a mapping. -/
def scalarEntriesOfEntries : List (Value × Value) → List (Value × Value)
  | [] => []
  | (k, v) :: es =>
    (if v.isCollection then scalarEntries v else [(k, v)]) ++ scalarEntriesOfEntries es

end

/-- What a value gives item by item, if it can be taken so at all: a list or a tuple its items, a
text its code points and a string of bytes its numbers. -/
def items? : Value → Option (List Value)
  | .list xs => some xs
  | .tuple xs => some xs
  | .text s => some ((Text.codePoints s.toList).map fun p => .text (Text.ofCodePoints [p]))
  | .bytes bs => some (bs.map fun b => .int b.toNat)
  | _ => none

end Value

/-! ### Processing -/

namespace Handler

variable {σ : Type}

mutual

/-- Processes a value found in a collection: a collection is entered, a scalar stays.  How much of
the stack that takes is left out. -/
def processNested (h : Handler σ) : Value → Run σ Value
  | .list xs => do
    let ys ← processItems h xs
    pure (.list ys)
  | .tuple xs => do
    let ys ← processItems h xs
    pure (.list ys)
  | .mapping _ es => do
    let out ← processEntries h [] es
    pure (.mapping .plain out)
  | v => pure v

/-- Processes the items of a list. -/
def processItems (h : Handler σ) : List Value → Run σ (List Value)
  | [] => pure []
  | x :: xs => do
    let y ← processNested h x
    let ys ← processItems h xs
    pure (y :: ys)

/-- Processes the entries of a mapping onto what is already in the output.  That an entry replaces
an earlier one is recorded, unless the entry holds a collection. -/
def processEntries (h : Handler σ) (out : List (Value × Value)) :
    List (Value × Value) → Run σ (List (Value × Value))
  | [] => pure out
  | (k, v) :: es =>
    if v.isCollection then do
      let w ← processNested h v
      processEntries h (Value.putEntry out k w) es
    else do
      let (k', w) ← h.process k v
      if Entries.has Value.sameKey out k' then Run.record (.overwritten k' k)
      processEntries h (Value.putEntry out k' w) es

end

/-- Processes a collection.  At the top, a text or a string of bytes is taken item by item; any
other scalar is an error. -/
def processCollection (h : Handler σ) (c : Value) : Run σ Value :=
  if c.isMapping then h.processNested c
  else match c.items? with
    | some xs => do
      let ys ← h.processItems xs
      pure (.list ys)
    | none => Run.fail (.notIterable c.qualifiedTypeName)

end Handler

/-- Processes a collection, making the call that each of its templates describes. -/
def Dispatcher.processCollection {σ : Type} (d : Dispatcher σ) (c : Value) : Run σ Value :=
  d.handler.processCollection c

/-! ### Validation -/

/-- Reads a key: nothing if it is no template, and otherwise its text, provided that the template
and its property list can be read. -/
def checkKey (key : Value) : Except Error (Option String) :=
  match key with
  | .text s =>
    if isTemplateText s then do
      let t ← Template.parse s
      let _ ← t.pairs
      .ok (some s)
    else .ok none
  | _ => .ok none

mutual

/-- Reads the templates of a value found in a collection; a scalar has none.  How much of the stack
that takes is left out. -/
def validateNested : Value → Except Error (List String)
  | .list xs => validateItems xs
  | .tuple xs => validateItems xs
  | .mapping _ es => validateEntries es
  | _ => .ok []

/-- Reads the templates under the items of a list. -/
def validateItems : List Value → Except Error (List String)
  | [] => .ok []
  | x :: xs => do
    let found ← validateNested x
    let rest ← validateItems xs
    .ok (found ++ rest)

/-- Reads the templates among and under the entries of a mapping, up to the first that is at
fault. -/
def validateEntries : List (Value × Value) → Except Error (List String)
  | [] => .ok []
  | (k, v) :: es =>
    if v.isCollection then do
      let found ← validateNested v
      let rest ← validateEntries es
      .ok (found ++ rest)
    else do
      let found ← checkKey k
      let rest ← validateEntries es
      .ok (found.toList ++ rest)

end

/-- Reads every template of a collection, without calling anything, and gives their texts in the
order of the walk.  At the top, a text or a string of bytes is taken item by item; any other scalar
is an error. -/
def validateCollection (c : Value) : Except Error (List String) :=
  if c.isMapping then validateNested c
  else match c.items? with
    | some xs => validateItems xs
    | none => .error (.notIterable c.qualifiedTypeName)

end KeyCall
