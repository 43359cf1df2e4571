import KeyCall.Text.CodePoint
import KeyCall.Text.Printable

/-!
# Quoted texts

Messages show a text between quotes, so that its ends and its invisible characters can be seen.
The quote is the apostrophe, unless the text holds an apostrophe and no quotation mark.  Inside,
the backslash and the quote in use are escaped, and so is every character that is not printable:
by a letter if it is a line feed, a carriage return or a tab, and by its code point otherwise.

## Main definitions

* `hexDigits n`: the digits of a number to the base sixteen.
* `hexPadded width n`: the same, with zeros in front up to a width.
* `quoteFor`: the quote a text is shown in.
* `quoted`: a text as messages show it.
* `quotedBytes`: a string of bytes as messages show it.
-/

namespace KeyCall
namespace Text

/-! ### Hexadecimal numbers -/

/-- The lower-case digits of a number to the base sixteen, without leading zeros. -/
def hexDigits (n : Nat) : List Char := Nat.toDigits 16 n

/-- The hexadecimal digits of a number, with zeros in front up to `width` digits. -/
def hexPadded (width n : Nat) : List Char :=
  List.replicate (width - (hexDigits n).length) '0' ++ hexDigits n

/-! ### Quoting -/

/-- The quote a text is shown in: the quotation mark if it holds an apostrophe and no quotation
mark, and the apostrophe otherwise. -/
def quoteFor (cs : List Char) : Char :=
  if cs.contains '\'' && !cs.contains '"' then '"' else '\''

/-- A code point that is not shown is escaped by its number, in two, four or eight digits. -/
def escaped (n : Nat) : List Char :=
  if n < 0x100 then '\\' :: 'x' :: hexPadded 2 n
  else if n < 0x10000 then '\\' :: 'u' :: hexPadded 4 n
  else '\\' :: 'U' :: hexPadded 8 n

/-- One character of a text shown in the given quote. -/
def quotedChar (quote c : Char) : List Char :=
  if c = quote || c = '\\' then ['\\', c]
  else if c = '\n' then ['\\', 'n']
  else if c = '\r' then ['\\', 'r']
  else if c = '\t' then ['\\', 't']
  else if isPrintable c then [c]
  else escaped c.toNat

/-- One code point of a text shown in the given quote. -/
def quotedPoint (quote : Char) : CodePoint → List Char
  | .char c => quotedChar quote c
  | .surrogate place => escaped (CodePoint.surrogate place).value

/-- A text between its quotes. -/
def quotedChars (cs : List Char) : List Char :=
  let quote := quoteFor cs
  quote :: (codePoints cs).flatMap (quotedPoint quote) ++ [quote]

/-- A text as messages show it. -/
def quoted (s : String) : String := String.ofList (quotedChars s.toList)

/-! ### Bytes -/

/-- One byte of a string of bytes shown in the given quote.  Only the printable ASCII characters
stand for themselves. -/
def quotedByte (quote : Char) (b : UInt8) : List Char :=
  let c := Char.ofNat b.toNat
  if c = quote || c = '\\' then ['\\', c]
  else if c = '\n' then ['\\', 'n']
  else if c = '\r' then ['\\', 'r']
  else if c = '\t' then ['\\', 't']
  else if 0x20 ≤ b.toNat && b.toNat < 0x7F then [c]
  else '\\' :: 'x' :: hexPadded 2 b.toNat

/-- A string of bytes between its quotes, marked by a `b` in front. -/
def quotedBytes (bs : List UInt8) : String :=
  let quote := quoteFor (bs.map fun b => Char.ofNat b.toNat)
  String.ofList ('b' :: quote :: bs.flatMap (quotedByte quote) ++ [quote])

end Text
end KeyCall
