import KeyCall.Error

/-!
# Writing JSON

Values are written in ASCII.  Containers stand on one line or, in the pretty layout, with each
item on a line of its own, indented by two blanks for each container around it.  The keys of
mappings become texts where they are null, truth values or numbers; other keys cannot be written.
Of the values that JSON lacks, bytes, days and times are written as texts.  What there is besides is
written as the text that the host makes of it, and the host may fail.

## Main definitions

* `Json.quoted`: a text in quotes.
* `Json.Layout`: the two layouts.
* `Json.nameOf`: the name that a key becomes.
* `Json.writeWith`, `Json.write`: a value.
-/

namespace KeyCall
namespace Json

/-- One code unit, spelled out. -/
def spelledUnit (n : Nat) : List Char := '\\' :: 'u' :: Text.hexPadded 4 n

/-- A character in quotes: by a letter, as itself, or by its code units. -/
def quotedChar (c : Char) : List Char :=
  let n := c.toNat
  if c = '"' || c = '\\' then ['\\', c]
  else if c = '\n' then ['\\', 'n']
  else if c = '\r' then ['\\', 'r']
  else if c = '\t' then ['\\', 't']
  else if c = '\x0c' then ['\\', 'f']
  else if c = '\x08' then ['\\', 'b']
  else if 0x20 ≤ n && n < 0x7F then [c]
  else if n < 0x10000 then spelledUnit n
  else
    let m := n - 0x10000
    spelledUnit (0xD800 + m / 0x400) ++ spelledUnit (0xDC00 + m % 0x400)

/-- A code point in quotes. -/
def quotedPoint : Text.CodePoint → List Char
  | .char c => quotedChar c
  | .surrogate place => spelledUnit (Text.CodePoint.surrogate place).value

/-- A text in quotes. -/
def quoted (s : String) : String :=
  String.ofList ('"' :: (Text.codePoints s.toList).flatMap quotedPoint ++ ['"'])

/-- The two layouts. -/
inductive Layout
  /-- Everything on one line. -/
  | line
  /-- Every item on a line of its own. -/
  | pretty
  deriving DecidableEq, Repr, Inhabited

namespace Layout

/-- The start of a line inside of `depth` containers. -/
def newLine (depth : Nat) : String := String.ofList ('\n' :: List.replicate (2 * depth) ' ')

/-- Items inside of a container at the given depth, between its two ends. -/
def enclosed (l : Layout) (first last : String) (depth : Nat) (items : List String) : String :=
  match l, items with
  | _, [] => first ++ last
  | .line, _ => first ++ ", ".intercalate items ++ last
  | .pretty, _ =>
    let inner := newLine (depth + 1)
    first ++ inner ++ ("," ++ inner).intercalate items ++ newLine depth ++ last

/-- The name of a type as the error of a key gives it. -/
def typeName (l : Layout) (v : Value) : String :=
  match l with
  | .line => v.qualifiedTypeName
  | .pretty => v.typeName

end Layout

/-- A fractional number. -/
def floatText : Binary64 → String
  | .nan => "NaN"
  | .infinite false => "Infinity"
  | .infinite true => "-Infinity"
  | x => x.text

/-- An integer, which must not have too many digits. -/
def intText (n : Int) : Except Error String :=
  let text := toString n.natAbs
  if Error.digitLimit < text.length then .error .tooLargeToWrite
  else .ok (if n < 0 then "-" ++ text else text)

/-- The name that a key becomes. -/
def nameOf (l : Layout) (key : Value) : Except Error String :=
  match key with
  | .text s => .ok s
  | .null => .ok "null"
  | .bool b => .ok (if b then "true" else "false")
  | .int n => intText n
  | .float x => .ok (floatText x)
  | v => .error (.keyNotWritable (l.typeName v))

section

variable (describe : Value → Except Error String) (l : Layout)

mutual

/-- Writes a value inside of `depth` containers.  How much of the stack that takes is left out. -/
def writeAt (depth : Nat) : Value → Except Error String
  | .null => .ok "null"
  | .bool b => .ok (if b then "true" else "false")
  | .int n => intText n
  | .float x => .ok (floatText x)
  | .text s => .ok (quoted s)
  | .bytes bs => .ok (quoted (Value.bytes bs).asText)
  | .date d => .ok (quoted d.text)
  | .moment m => .ok (quoted m.text)
  | .list xs => (writeItems (depth + 1) xs).map (l.enclosed "[" "]" depth)
  | .tuple xs => (writeItems (depth + 1) xs).map (l.enclosed "[" "]" depth)
  | .mapping .plain es => (writeMembers (depth + 1) es).map (l.enclosed "\x7b" "\x7d" depth)
  | .mapping .ordered es => (writeMembers (depth + 1) es).map (l.enclosed "\x7b" "\x7d" depth)
  | v => (describe v).map quoted

/-- Writes the items of a list. -/
def writeItems (depth : Nat) : List Value → Except Error (List String)
  | [] => .ok []
  | v :: vs => do
    let s ← writeAt depth v
    let ss ← writeItems depth vs
    .ok (s :: ss)

/-- Writes the entries of a mapping. -/
def writeMembers (depth : Nat) : List (Value × Value) → Except Error (List String)
  | [] => .ok []
  | (k, v) :: es => do
    let name ← nameOf l k
    let s ← writeAt depth v
    let ss ← writeMembers depth es
    .ok ((quoted name ++ ": " ++ s) :: ss)

end

/-- Writes a value, where making a text of an object may fail. -/
def writeWith (v : Value) : Except Error String := writeAt describe l 0 v

end

/-- Writes a value. -/
def write (describe : Value → String) (l : Layout) (v : Value) : Except Error String :=
  writeWith (fun v => .ok (describe v)) l v

end Json
end KeyCall
