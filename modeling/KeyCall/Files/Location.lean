import KeyCall.Text.Blank
import KeyCall.Text.Utf8

/-!
# Locations

The path of a file is kept as its parts.  Empty parts and parts that name the same directory again
are dropped as soon as the path is read; steps to the parent are kept, since where they lead
depends on what is there.

## Main definitions

* `Location`: a path.
* `Location.ofText`, `Location.text`: reading and writing.
* `Location.name`, `Location.suffix`: the last part, and what it ends in.
* `Location.resolved`: a path without steps to the parent.
* `Location.resolve`: the same, unless the path is one that the system cannot be asked about.
-/

namespace KeyCall

/-- A path, from the root or from the working directory. -/
structure Location where
  /-- The number of slashes in front.  A path without any starts at the working directory.  Two
  are kept in writing; more count for one. -/
  slashes : Nat
  /-- The parts between the slashes. -/
  parts : List String
  deriving DecidableEq, Repr, Inhabited

namespace Location

/-- The step to the parent. -/
def parent : String := ".."

/-- Whether a path starts at the root. -/
def absolute (l : Location) : Bool := l.slashes != 0

/-- The working directory, or the root if the path starts there. -/
def start (l : Location) : Location := ⟨min l.slashes 1, []⟩

/-- Reads a path. -/
def ofText (s : String) : Location where
  slashes :=
    let n := (s.toList.takeWhile (· = '/')).length
    if n = 2 then 2 else min n 1
  parts := (Text.split '/' s).filter fun p => p != "" && p != "."

/-- Writes a path; the working directory itself is a dot. -/
def text (l : Location) : String :=
  let body := "/".intercalate l.parts
  if l.absolute then String.ofList (List.replicate l.slashes '/') ++ body
  else if l.parts.isEmpty then "." else body

/-- The last part of a path. -/
def name (l : Location) : String := l.parts.getLastD ""

/-- What a name ends in from its last dot on, unless the dot is its first or its last
character. -/
def suffix (l : Location) : String :=
  let cs := l.name.toList.reverse
  let tail := cs.takeWhile (· != '.')
  match cs.dropWhile (· != '.') with
  | _ :: _ :: _ => if tail.isEmpty then "" else String.ofList ('.' :: tail.reverse)
  | _ => ""

/-- Takes one step.  At the root, the parent is the root; in front of the working directory, steps
to the parent pile up. -/
def step (l : Location) (p : String) : Location :=
  if p == parent then
    match l.parts.getLast? with
    | none => if l.absolute then l else { l with parts := [parent] }
    | some q => { l with parts := if q == parent then l.parts ++ [parent] else l.parts.dropLast }
  else { l with parts := l.parts ++ [p] }

/-- A path with its steps to the parent taken. -/
def resolved (l : Location) : Location := l.parts.foldl step l.start

/-! ### Paths that the system takes -/

/-- Whether a code point of a path has bytes.  Of the surrogates, those in the upper half of the
second ones stand for the bytes of names that are no text. -/
def isEncodable : Text.CodePoint → Bool
  | .char _ => true
  | .surrogate place => 0x480 ≤ place.val && place.val < 0x500

/-- Whether a code point is a surrogate. -/
def isSurrogate : Text.CodePoint → Bool
  | .char _ => false
  | .surrogate _ => true

/-- What is wrong with the code points of a path, if anything is; the first of them is at
`position`. -/
def pathFault? (position : Nat) : List Text.CodePoint → Option PathFault
  | [] => none
  | p :: ps =>
    if isEncodable p then pathFault? (position + 1) ps
    else some ⟨p, position, (ps.takeWhile isSurrogate).length + 1⟩

/-- The error of asking the system about a path, if the path cannot be handed to it. -/
def refusal? (l : Location) : Option Error :=
  match pathFault? 0 (Text.codePoints l.text.toList) with
  | some f => some (.pathUnencodable f)
  | none => if l.text.toList.contains '\x00' then some .nullInPath else none

/-- Takes one step, and asks the system about the path that it leads to. -/
def tryStep (l : Location) (p : String) : Except Error Location :=
  let next := l.step p
  match if p == parent then none else next.refusal? with
  | some e => .error e
  | none => .ok next

/-- A path with its steps to the parent taken, where the system is asked on the way. -/
def resolve (l : Location) : Except Error Location := l.parts.foldlM tryStep l.start

/-- The number of bytes of a text. -/
def byteLength (s : String) : Nat := (Text.encodeUtf8 s).length

/-- The length of names, in bytes, from which on they are too long. -/
def nameLimit : Nat := 256

/-- The length of paths, in bytes, from which on they are too long. -/
def pathLimit : Nat := 4096

end Location
end KeyCall
