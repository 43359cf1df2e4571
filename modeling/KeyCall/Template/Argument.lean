import KeyCall.Template.Basic

/-!
# Parameter lists

A parameter list is tokens between commas.  The placeholder stands for the value under the key,
and every other token, the empty one included, for itself as a text.

## Main definitions

* `Argument.ofToken`: the argument that a token stands for.
* `Argument.bind`: the arguments of a parameter list.
* `Argument.bindValue`: the same for a list given as a value of any type.
-/

namespace KeyCall
namespace Argument

/-- The argument that a trimmed token stands for. -/
def ofToken (value : Value) (token : List Char) : Value :=
  if token == placeholder then value else .text (String.ofList token)

/-- The arguments of a parameter list; a blank one has none. -/
def ofChars (params : List Char) (value : Value) : List Value :=
  if Text.allBlank params then []
  else (Text.pieces ',' params).map fun piece => ofToken value (Text.trim piece)

/-- The arguments of a parameter list that may be absent. -/
def bind (params : Option String) (value : Value) : List Value :=
  match params with
  | none => []
  | some s => ofChars s.toList value

/-- The arguments of a parameter list given as a value.  What counts as false has none, and what is
no text cannot be trimmed or cut. -/
def bindValue (params value : Value) : Except Error (List Value) :=
  if !params.isTruthy then .ok []
  else match params with
    | .text s => .ok (bind (some s) value)
    | .bytes bs =>
      let blank (b : UInt8) : Bool := Text.isAsciiBlank (Char.ofNat b.toNat)
      if bs.all blank then .ok [] else .error .textNotBytes
    | v => .error (.noAttribute v.holderName "strip")

end Argument
end KeyCall
