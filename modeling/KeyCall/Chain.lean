import KeyCall.Chain.Path

/-!
# Call chains

Writing a value along an attribute path gives the target a fresh chain of one-branch nodes under
the path's first segment, with the value at the end, whatever the segment held before.  The nodes
are mappings under a mapping and open records under everything else.

A path is followed one segment at a time: what it goes on with after the first segment is joined to
a path again, along which the value is written into a fresh node.  That this comes to an end, and
that nothing fails on the way, rests on the joined segments being split into just these segments.

## Main definitions

* `Chain.nested`: a value at the end of a chain of nodes.
* `Chain.assign`: writes one attribute.
* `Chain.extend`: writes a value along a path.
* `Chain.build`: a chain on its own.

## Main results

* `extend_eq`: writing along a path is setting one attribute to a chain of nodes.
-/

namespace KeyCall
namespace Chain

/-! ### Nodes -/

/-- A node with one branch: a mapping or an open record. -/
def node (asMapping : Bool) (name : String) (value : Value) : Value :=
  if asMapping then .mapping .plain [(.text name, value)] else .record [(name, value)]

/-- A value at the end of a chain of one-branch nodes. -/
def nested (asMapping : Bool) : List String → Value → Value
  | [], value => value
  | name :: names, value => node asMapping name (nested asMapping names value)

@[simp] theorem nested_nil (asMapping : Bool) (value : Value) :
    nested asMapping [] value = value := rfl

@[simp] theorem nested_cons (asMapping : Bool) (name : String) (names : List String)
    (value : Value) :
    nested asMapping (name :: names) value = node asMapping name (nested asMapping names value) :=
  rfl

theorem nested_append (asMapping : Bool) (front back : List String) (value : Value) :
    nested asMapping (front ++ back) value =
      nested asMapping front (nested asMapping back value) := by
  induction front with
  | nil => rfl
  | cons name front ih => simp [ih]

/-! ### Writing attributes -/

/-- What the class of an object has against a field of that name being set. -/
abbrev Guard := (className field : String) → Option Error

/-- Sets one attribute of a value: an entry of a mapping, a field of a record or of an object.
Other values have no attributes that can be set.  A record is open: it takes a field of any name,
also of one that is built into every object, like `__class__` or `__dict__`.  Whoever keeps records
as objects of a class with such names refuses those, and that is left out here. -/
def assign (guard : Guard) (target : Value) (name : String) (value : Value) :
    Except Error Value :=
  match target with
  | .mapping kind es => .ok (.mapping kind (Value.putEntry es (.text name) value))
  | .record fs => .ok (.record (Entries.put (· == ·) fs name value))
  | .object c fs =>
    match guard c name with
    | some e => .error e
    | none => .ok (.object c (Entries.put (· == ·) fs name value))
  | v => .error (.noAttribute v.holderName name)

/-- A node without branches, of the kind that goes under a target. -/
def emptyNode (asMapping : Bool) : Value := if asMapping then .mapping .plain [] else .record []

/-- The number of segments of a path, if it is one. -/
def depth (path : String) : Nat := ((split path).toOption.getD []).length

theorem depth_of_split {path : String} {ss : List String} (h : split path = .ok ss) :
    depth path = ss.length := by
  rw [depth, h]
  rfl

/-- Writes a value along a path into a target.  The value is written into a fresh node, along what
the path goes on with after its first segment, and the node is set under that segment. -/
def extend (guard : Guard) (target : Value) (path : String) (value : Value) :
    Except Error Value :=
  match _h : split path with
  | .error e => .error e
  | .ok [] => .ok target
  | .ok [name] => assign guard target name value
  | .ok (name :: next :: names) => do
    let chain ← extend guard (emptyNode target.isMapping) (joined (next :: names)) value
    assign guard target name chain
termination_by depth path
decreasing_by
  rw [depth_of_split _h, depth_of_split (split_joined_of_split _h (List.cons_ne_nil next names))]
  exact Nat.lt_succ_self _

/-- What is set on an empty node makes it a node with one branch. -/
theorem assign_emptyNode (guard : Guard) (asMapping : Bool) (name : String) (value : Value) :
    assign guard (emptyNode asMapping) name value = .ok (node asMapping name value) := by
  cases asMapping <;> rfl

theorem isMapping_emptyNode (asMapping : Bool) : (emptyNode asMapping).isMapping = asMapping := by
  cases asMapping <;> rfl

/-- **Writing along a path is setting one attribute to a chain of nodes.**  Nothing fails below the
first segment. -/
theorem extend_eq (guard : Guard) (target : Value) (path : String) (value : Value) :
    extend guard target path value = (do
      match ← split path with
      | [] => .ok target
      | name :: names => assign guard target name (nested target.isMapping names value)) := by
  fun_induction extend guard target path value with
  | case1 target path e h | case2 target path h | case3 target path name h =>
    rw [h]
    rfl
  | case4 target path name next names h ih =>
    have hrest := split_joined_of_split h (List.cons_ne_nil next names)
    rw [hrest] at ih
    change _ = assign guard (emptyNode target.isMapping) next
      (nested (emptyNode target.isMapping).isMapping names value) at ih
    rw [assign_emptyNode, isMapping_emptyNode] at ih
    rw [ih, h]
    rfl

/-- No class has anything against a field. -/
def unguarded : Guard := fun _ _ => none

/-- A chain on its own: an open record that holds the value along the path. -/
def build (path : String) (value : Value) : Except Error Value :=
  extend unguarded (.record []) path value

end Chain
end KeyCall
