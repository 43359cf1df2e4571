import KeyCall.Template.Basic
import KeyCall.Template.Cut

/-!
# Reading keys

No two cuts write the same key, so a key can be read without trying alternatives.  The reader
works from both ends: everything behind the class is taken off the end of the key, where each
piece is the longest run of its kind, and what is left in front is the opening, the class and the
property list, which ends at the last closing brace left.

## Main definitions

* `Cut.read?`: the cut of a key.
* `Cut.template`: the template that a cut stands for.
* `Template.match?`: the template that a key is.
* `Template.parse`: the same, with an error for a key that is none.
-/

namespace KeyCall

open Text (splitTail dropLast? isAsciiBlank isWord)

namespace Cut

/-- Reads a property list in parentheses, up to the blanks behind it. -/
def readBlock? (l : List Char) : Option Block :=
  match l with
  | '(' :: l =>
    match l.dropWhile isAsciiBlank with
    | '{' :: body => do
      let (body, afterClose) := splitTail isAsciiBlank body
      let body ← dropLast? ')' body
      let (body, afterBrace) := splitTail isAsciiBlank body
      let properties ← dropLast? '}' body
      if properties.all isPropertyChar then
        some ⟨l.takeWhile isAsciiBlank, properties, afterBrace, afterClose⟩
      else none
    | _ => none
  | _ => none

/-- Reads a class with its dot. -/
def readOwner? (l : List Char) : Option Owner := do
  let (l, afterDot) := splitTail isAsciiBlank l
  let l ← dropLast? '.' l
  let name := l.takeWhile isClassChar
  let rest := l.dropWhile isClassChar
  let afterName := rest.takeWhile isAsciiBlank
  let rest := rest.dropWhile isAsciiBlank
  if name.isEmpty then none
  else if rest.isEmpty then some ⟨name, afterName, none, afterDot⟩
  else do
    let block ← readBlock? rest
    some ⟨name, afterName, some block, afterDot⟩

/-- Reads the opening of a key and the class, if there is one. -/
def readHead? (l : List Char) : Option (List Char × Option Owner) :=
  match l with
  | '$' :: '{' :: l =>
    let lead := l.takeWhile isAsciiBlank
    let rest := l.dropWhile isAsciiBlank
    if rest.isEmpty then some (lead, none)
    else (readOwner? rest).map fun o => (lead, some o)
  | _ => none

/-- Reads a key, from its end to the method and then from its start. -/
def read? (l : List Char) : Option Cut := do
  let (l, trail) := splitTail isAsciiBlank l
  let (l, outkey) := splitTail isWord l
  let (l, afterColon) := splitTail isAsciiBlank l
  let l ← dropLast? ':' l
  let (l, afterBrace) := splitTail isAsciiBlank l
  let l ← dropLast? '}' l
  let (l, afterParams) := splitTail isAsciiBlank l
  let l ← dropLast? ')' l
  let (l, params) := splitTail isParamChar l
  let l ← dropLast? '(' l
  let (l, afterMethod) := splitTail isAsciiBlank l
  let (l, method) := splitTail isWord l
  if outkey.isEmpty || method.isEmpty then none
  else do
    let (lead, owner) ← readHead? l
    some ⟨lead, owner, method, afterMethod, params, afterParams, afterBrace, afterColon, outkey,
      trail⟩

/-! ### The template of a cut -/

/-- A piece without the blanks at its ends, or nothing if it holds blanks only. -/
def cleaned? (l : List Char) : Option String :=
  let t := Text.trim l
  if t.isEmpty then none else some (String.ofList t)

/-- The template that a cut stands for.  Class, properties and parameters are trimmed, and a class
or a parameter list of blanks counts as absent; a property list does not. -/
def template (c : Cut) : Template where
  method := String.ofList c.method
  outkey := String.ofList c.outkey
  className := c.owner.bind fun o => cleaned? o.name
  properties := (c.owner.bind Owner.block).map fun b => String.ofList (Text.trim b.properties)
  params := cleaned? c.params

end Cut

namespace Template

/-- The template that a text is, if it is one. -/
def match? (s : String) : Option Template := (Cut.read? s.toList).map Cut.template

/-- The template that a key is, or the error that it is none. -/
def parse (key : String) : Except Error Template :=
  match match? key with
  | some t => .ok t
  | none => .error (.notTemplate key)

end Template
end KeyCall
