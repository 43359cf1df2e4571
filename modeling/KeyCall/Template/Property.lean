import KeyCall.Template.Basic

/-!
# Property lists

A property list is entries between commas, and an entry is a name and a value with a colon
between them.  Blank entries are skipped, so that a comma may end the list.

## Main definitions

* `Property`: a name with its value.
* `Property.ofEntry`: reads one entry.
* `Property.ofText`: reads a list.
* `Template.pairs`: the properties of a template.
* `Property.isBound`: whether the value under the key goes into the property.
-/

namespace KeyCall

/-- A name with its value, both trimmed. -/
structure Property where
  /-- The name: an attribute path. -/
  name : String
  /-- The value: the placeholder or a literal. -/
  value : String
  deriving DecidableEq, Repr, Inhabited

namespace Property

/-- Reads an entry: the text before its first colon is the name and must not be blank, and the
rest is the value. -/
def ofEntry (entry : List Char) : Except Error Property :=
  let bad : Error := .badProperty (String.ofList (Text.trim entry))
  match Text.cutAtFirst? ':' entry with
  | none => .error bad
  | some (name, value) =>
    let name := Text.trim name
    if name.isEmpty then .error bad
    else .ok ⟨String.ofList name, String.ofList (Text.trim value)⟩

/-- Reads entries in order, up to the first that is none; blank ones are skipped. -/
def ofEntries : List (List Char) → Except Error (List Property)
  | [] => .ok []
  | e :: es =>
    if Text.allBlank e then ofEntries es
    else do
      let p ← ofEntry e
      let ps ← ofEntries es
      .ok (p :: ps)

/-- Reads a property list. -/
def ofText (raw : String) : Except Error (List Property) := ofEntries (Text.pieces ',' raw.toList)

/-- Whether the property is bound to the value under the key; a property with any other value is
not written onto the model. -/
def isBound (p : Property) : Bool := p.value.toList == placeholder

end Property

/-- The properties of a template; an absent or empty list has none. -/
def Template.pairs (t : Template) : Except Error (List Property) :=
  match t.properties with
  | none => .ok []
  | some raw => if raw.isEmpty then .ok [] else Property.ofText raw

end KeyCall
