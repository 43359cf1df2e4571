import KeyCall.Text.CodePoint

/-!
# Bytes to the base 64

Bytes can be written in digits to the base 64: four digits are three bytes.  Whatever is no digit is
skipped.  Equals signs stand for the digits that are missing at the end, and where they make up the
four, reading stops; without them nothing may be missing.

## Main definitions

* `Text.digit64?`: the number that a digit stands for.
* `Text.decode64?`: the bytes that a text writes.
-/

namespace KeyCall
namespace Text

/-- The number that a digit to the base 64 stands for. -/
def digit64? (c : Char) : Option Nat :=
  if c.isUpper then some (c.toNat - 'A'.toNat)
  else if c.isLower then some (c.toNat - 'a'.toNat + 26)
  else if c.isDigit then some (c.toNat - '0'.toNat + 52)
  else if c = '+' then some 62
  else if c = '/' then some 63
  else none

/-- The bytes in front of some text.  Of the four digits that are next, `place` have been read, and
`held` are the bits of theirs that no byte has yet; `pads` equals signs came behind them. -/
def decode64From (place held pads : Nat) : List Char → Option (List UInt8)
  | [] => if place = 0 then some [] else none
  | c :: cs =>
    if c = '=' then
      if place < 2 then decode64From place held pads cs
      else if 4 ≤ place + pads + 1 then some []
      else decode64From place held (pads + 1) cs
    else match digit64? c with
      | none => decode64From place held pads cs
      | some n =>
        match place with
        | 0 => decode64From 1 n 0 cs
        | 1 => (decode64From 2 (n % 16) 0 cs).map (UInt8.ofNat (4 * held + n / 16) :: ·)
        | 2 => (decode64From 3 (n % 4) 0 cs).map (UInt8.ofNat (16 * held + n / 4) :: ·)
        | _ => (decode64From 0 0 0 cs).map (UInt8.ofNat (64 * held + n) :: ·)

/-- The bytes that a text writes, which has to be of ASCII characters. -/
def decode64? (cs : List Char) : Option (List UInt8) :=
  if cs.all (·.toNat < 0x80) then decode64From 0 0 0 cs else none

end Text
end KeyCall
