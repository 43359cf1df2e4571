import KeyCall.Text.Blank

/-!
# The cut of a key

How a template is written.  A cut names every piece of a key, the runs of blanks included:

    $ { lead [ class ( { properties } ) . ] method ( params ) } : outkey

`Cut.chars` writes the pieces one after the other, and `Cut.WellFormed` states which characters
each of them may hold.  A key is a template exactly when it is `c.chars` for a well-formed `c`.

## Main definitions

* `isClassChar`, `isParamChar`: the characters of a class and of a parameter list.
* `Cut.Block`, `Cut.Owner`, `Cut`: the pieces.
* `Cut.chars`: the key that has the pieces.
* `Cut.WellFormed`: the characters that the pieces may hold.
-/

namespace KeyCall

/-- A class holds any characters but ASCII blanks, opening braces, colons and opening
parentheses. -/
def isClassChar (c : Char) : Bool :=
  !(Text.isAsciiBlank c || c == '{' || c == ':' || c == '(')

/-- A parameter list holds word characters, question marks, commas and ASCII blanks. -/
def isParamChar (c : Char) : Bool := Text.isWord c || c == '?' || c == ',' || Text.isAsciiBlank c

/-- A property list holds any character but the line feed. -/
def isPropertyChar (c : Char) : Bool := c != '\n'

namespace Cut

/-- A property list between its braces and parentheses. -/
structure Block where
  /-- The blanks after the opening parenthesis. -/
  afterOpen : List Char
  /-- The property list. -/
  properties : List Char
  /-- The blanks after the closing brace. -/
  afterBrace : List Char
  /-- The blanks after the closing parenthesis. -/
  afterClose : List Char
  deriving DecidableEq, Repr, Inhabited

/-- The class in front of a method, with its dot. -/
structure Owner where
  /-- The class. -/
  name : List Char
  /-- The blanks after the class. -/
  afterName : List Char
  /-- The property list, if one is written. -/
  block : Option Block
  /-- The blanks after the dot. -/
  afterDot : List Char
  deriving DecidableEq, Repr, Inhabited

end Cut

/-- The pieces of a key. -/
structure Cut where
  /-- The blanks after the opening brace. -/
  lead : List Char
  /-- The class, if one is written. -/
  owner : Option Cut.Owner
  /-- The method. -/
  method : List Char
  /-- The blanks after the method. -/
  afterMethod : List Char
  /-- The parameter list. -/
  params : List Char
  /-- The blanks after the closing parenthesis. -/
  afterParams : List Char
  /-- The blanks after the closing brace. -/
  afterBrace : List Char
  /-- The blanks after the colon. -/
  afterColon : List Char
  /-- The output key. -/
  outkey : List Char
  /-- The blanks at the end. -/
  trail : List Char
  deriving DecidableEq, Repr, Inhabited

namespace Cut

/-! ### Writing -/

/-- A property list as it is written. -/
def Block.chars (b : Block) : List Char :=
  '(' :: b.afterOpen ++ '{' :: b.properties ++ '}' :: b.afterBrace ++ ')' :: b.afterClose

/-- A class as it is written. -/
def Owner.chars (o : Owner) : List Char :=
  o.name ++ o.afterName ++ (o.block.elim [] Block.chars) ++ '.' :: o.afterDot

/-- What is written before the method. -/
def headChars (c : Cut) : List Char :=
  '$' :: '{' :: c.lead ++ c.owner.elim [] Owner.chars

/-- A key as it is written. -/
def chars (c : Cut) : List Char :=
  c.headChars ++ c.method ++ c.afterMethod ++ '(' :: c.params ++ ')' :: c.afterParams ++
    '}' :: c.afterBrace ++ ':' :: c.afterColon ++ c.outkey ++ c.trail

/-! ### Which characters the pieces hold -/

/-- A run of ASCII blanks, be it empty. -/
def Blanks (l : List Char) : Prop := ∀ c ∈ l, Text.isAsciiBlank c = true

/-- A word: at least one word character. -/
def Word (l : List Char) : Prop := l ≠ [] ∧ ∀ c ∈ l, Text.isWord c = true

/-- The pieces of a property list are of their kinds. -/
structure Block.WellFormed (b : Block) : Prop where
  afterOpen : Blanks b.afterOpen
  properties : ∀ c ∈ b.properties, isPropertyChar c = true
  afterBrace : Blanks b.afterBrace
  afterClose : Blanks b.afterClose

/-- The pieces of a class are of their kinds. -/
structure Owner.WellFormed (o : Owner) : Prop where
  name_ne : o.name ≠ []
  name : ∀ c ∈ o.name, isClassChar c = true
  afterName : Blanks o.afterName
  block : ∀ b ∈ o.block, b.WellFormed
  afterDot : Blanks o.afterDot

/-- All pieces are of their kinds. -/
structure WellFormed (c : Cut) : Prop where
  lead : Blanks c.lead
  owner : ∀ o ∈ c.owner, o.WellFormed
  method : Word c.method
  afterMethod : Blanks c.afterMethod
  params : ∀ x ∈ c.params, isParamChar x = true
  afterParams : Blanks c.afterParams
  afterBrace : Blanks c.afterBrace
  afterColon : Blanks c.afterColon
  outkey : Word c.outkey
  trail : Blanks c.trail

end Cut
end KeyCall
