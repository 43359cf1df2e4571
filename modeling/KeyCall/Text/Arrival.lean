import KeyCall.Text.Utf8

/-!
# Texts as they arrive

A text that is read while its file is still being fetched is not decoded at once.  Bytes come in
blocks, and the bytes of a character that a block breaks off wait for the next one.  So what is
wrong with some bytes has its position counted from the start of their block, and shows only when
the reader gets there.  The reader is handed characters in portions, two of them before it starts.

## Main definitions

* `Arrival`: what can be read of a text, and what is wrong behind it.
* `Arrival.ofBytes`: how the text in some bytes arrives.
-/

namespace KeyCall
namespace Text

/-- What can be read of a text, and what is wrong with the bytes behind it, if anything is. -/
structure Arrival where
  /-- The characters. -/
  text : List Char
  /-- What is wrong behind them. -/
  fault : Option Utf8Fault
  deriving Repr, Inhabited

namespace Arrival

/-- The number of bytes in a block. -/
def blockSize : Nat := 8192

/-- The number of characters in a portion. -/
def portion : Nat := 4096

/-- Of a text that breaks off, the reader gets whole portions, and nothing without the first two. -/
def handedOut (cs : List Char) : List Char :=
  let n := cs.length
  if n < 2 * portion then [] else cs.take (n - n % portion)

/-- Decodes a block up to a character that it breaks off, and gives the bytes of that one. -/
def decodeBlock (block : List UInt8) : Except Utf8Fault (List Char × List UInt8) :=
  match decodeUtf8 block with
  | .ok cs => .ok (cs, [])
  | .error f =>
    if f.reason == brokenOff then
      .ok ((decodeUtf8 (block.take f.position)).toOption.getD [], block.drop f.position)
    else .error f

/-- Decodes bytes block by block; `waiting` are the bytes of a character that is broken off, and
`done` are the characters so far. -/
def fromBlocks (waiting : List UInt8) (done : List Char) : List UInt8 → Arrival
  | [] =>
    match decodeUtf8 waiting with
    | .ok cs => ⟨unifyLines (done ++ cs), none⟩
    | .error f => ⟨handedOut (unifyLines done), some f⟩
  | b :: bs =>
    match decodeBlock (waiting ++ (b :: bs).take blockSize) with
    | .ok (cs, waiting) => fromBlocks waiting (done ++ cs) ((b :: bs).drop blockSize)
    | .error f => ⟨handedOut (unifyLines done), some f⟩
termination_by bytes => bytes.length
decreasing_by
  simp only [blockSize, List.length_drop, List.length_cons]
  omega

/-- How the text in some bytes arrives. -/
def ofBytes (bytes : List UInt8) : Arrival := fromBlocks [] [] bytes

end Arrival
end Text
end KeyCall
