import KeyCall.Error

/-!
# UTF-8

Files are texts in UTF-8.  The decoder accepts the shortest encoding of every character and
nothing else, and for bytes that are no text tells the first position where they are not: which
bytes start no character there, or where a character breaks off.  Line ends are unified
afterwards.

## Main definitions

* `Text.decodeUtf8`: the characters of bytes.
* `Text.unifyLines`: a text whose lines all end in a line feed.
* `Text.encodeUtf8`: the bytes of a text.
-/

namespace KeyCall
namespace Text

/-- Whether a byte continues a character. -/
def isContinuation (b : UInt8) : Bool := 0x80 ≤ b.toNat && b.toNat < 0xC0

/-- Whether a byte may follow the first byte of a character of three bytes: the encoding must be
the shortest, and the character no surrogate. -/
def followsThree (first b : UInt8) : Bool :=
  isContinuation b && !(first.toNat == 0xE0 && b.toNat < 0xA0) &&
    !(first.toNat == 0xED && 0xA0 ≤ b.toNat)

/-- Whether a byte may follow the first byte of a character of four bytes: the encoding must be
the shortest, and the character in range. -/
def followsFour (first b : UInt8) : Bool :=
  isContinuation b && !(first.toNat == 0xF0 && b.toNat < 0x90) &&
    !(first.toNat == 0xF4 && 0x90 ≤ b.toNat)

/-- What is wrong when bytes that are there do not continue a character. -/
def badContinuation (first : UInt8) (position length : Nat) : Utf8Fault :=
  ⟨first, position, length, "invalid continuation byte"⟩

/-- The reason given when the bytes end inside of a character. -/
def brokenOff : String := "unexpected end of data"

/-- What is wrong when the bytes end inside of a character. -/
def badEnd (first : UInt8) (position length : Nat) : Utf8Fault :=
  ⟨first, position, length, brokenOff⟩

/-- The character of the value bits of its bytes. -/
def charOfBits (lead : Nat) (rest : List UInt8) : Char :=
  Char.ofNat (rest.foldl (fun n b => 64 * n + (b.toNat - 0x80)) lead)

/-- The characters of bytes, the first of which is at `position`; `done` holds the characters so
far in reverse. -/
def decodeFrom (done : List Char) (position : Nat) : List UInt8 → Except Utf8Fault (List Char)
  | [] => .ok done.reverse
  | a :: rest =>
    let n := a.toNat
    if n < 0x80 then decodeFrom (Char.ofNat n :: done) (position + 1) rest
    else if n < 0xC2 then .error ⟨a, position, 1, "invalid start byte"⟩
    else if n < 0xE0 then
      match rest with
      | [] => .error (badEnd a position 1)
      | b :: tail =>
        if isContinuation b then
          decodeFrom (charOfBits (n - 0xC0) [b] :: done) (position + 2) tail
        else .error (badContinuation a position 1)
    else if n < 0xF0 then
      match rest with
      | [] => .error (badEnd a position 1)
      | [b] =>
        if followsThree a b then .error (badEnd a position 2)
        else .error (badContinuation a position 1)
      | b :: c :: tail =>
        if !followsThree a b then .error (badContinuation a position 1)
        else if !isContinuation c then .error (badContinuation a position 2)
        else decodeFrom (charOfBits (n - 0xE0) [b, c] :: done) (position + 3) tail
    else if n < 0xF5 then
      match rest with
      | [] => .error (badEnd a position 1)
      | [b] =>
        if followsFour a b then .error (badEnd a position 2)
        else .error (badContinuation a position 1)
      | [b, c] =>
        if !followsFour a b then .error (badContinuation a position 1)
        else if !isContinuation c then .error (badContinuation a position 2)
        else .error (badEnd a position 3)
      | b :: c :: d :: tail =>
        if !followsFour a b then .error (badContinuation a position 1)
        else if !isContinuation c then .error (badContinuation a position 2)
        else if !isContinuation d then .error (badContinuation a position 3)
        else decodeFrom (charOfBits (n - 0xF0) [b, c, d] :: done) (position + 4) tail
    else .error ⟨a, position, 1, "invalid start byte"⟩

/-- The characters of bytes. -/
def decodeUtf8 (bytes : List UInt8) : Except Utf8Fault (List Char) := decodeFrom [] 0 bytes

/-- A text whose lines all end in a line feed: a carriage return, alone or before a line feed,
becomes one. -/
def unifyLines : List Char → List Char
  | [] => []
  | '\r' :: '\n' :: cs => '\n' :: unifyLines cs
  | c :: cs => (if c = '\r' then '\n' else c) :: unifyLines cs

/-- The bytes of the code point of a number.  A surrogate has those of its number, although they
are no text. -/
def encodedPoint (n : Nat) : List UInt8 :=
  let more (shift : Nat) : UInt8 := (0x80 + n / shift % 64).toUInt8
  if n < 0x80 then [n.toUInt8]
  else if n < 0x800 then [(0xC0 + n / 64).toUInt8, more 1]
  else if n < 0x10000 then [(0xE0 + n / 4096).toUInt8, more 64, more 1]
  else [(0xF0 + n / 262144).toUInt8, more 4096, more 64, more 1]

/-- The bytes of a text. -/
def encodeUtf8 (s : String) : List UInt8 :=
  (codePoints s.toList).flatMap fun p => encodedPoint p.value

end Text
end KeyCall
