/-!
# Code points

A text is a row of code points.  Nearly all of them are characters, but documents can also spell a
surrogate that has no partner.  It is no character, and yet it has to come through reading and
writing unchanged.  A `String` holds characters only, so a text is kept in a spelling: a surrogate
is spelled by its stand-in, a private-use character of the last plane.  A character that would be
taken for a stand-in comes behind a mark, and so does the mark itself.  Every other character spells
itself.

## Main definitions

* `CodePoint`: a character or a surrogate, with its number `CodePoint.value`.
* `CodePoint.spelling`: the characters that a code point is kept as.
* `ofCodePoints`, `codePoints`: the text of code points, and the code points of a text.
* `ofCharacters`, `characters`: the text of characters, and the characters of a text.

## Main results

* `codePoints_ofCodePoints`: the spelling keeps every row of code points apart from all others.
* `spelling_of_not_reserved`: a character outside of the reserved ones spells itself.
-/

namespace KeyCall
namespace Text

/-- A code point: a character, or one of the surrogates, by its place among them. -/
inductive CodePoint
  /-- A character. -/
  | char (c : Char)
  /-- A surrogate without a partner. -/
  | surrogate (place : Fin 0x800)
  deriving DecidableEq, Repr, Inhabited

/-! ### Surrogates -/

/-- Whether a code unit is the first of a pair. -/
def isHighSurrogate (n : Nat) : Bool := 0xD800 ≤ n && n < 0xDC00

/-- Whether a code unit is the second of a pair. -/
def isLowSurrogate (n : Nat) : Bool := 0xDC00 ≤ n && n < 0xE000

/-- The number of the character that a pair of surrogates encodes. -/
def joined (high low : Nat) : Nat := 0x10000 + (high - 0xD800) * 0x400 + (low - 0xDC00)

/-- The stand-in of a surrogate. -/
def standIn (place : Fin 0x800) : Char := Char.ofNat (0x10D800 + place)

/-- The surrogate that a character stands in for, if it is a stand-in. -/
def standsFor? (c : Char) : Option (Fin 0x800) :=
  if h : 0x10D800 ≤ c.toNat ∧ c.toNat < 0x10E000 then some ⟨c.toNat - 0x10D800, by omega⟩ else none

/-- The mark in front of a character that stands for itself although it is reserved. -/
def mark : Char := Char.ofNat 0x10E000

/-- The stand-ins and the mark are reserved. -/
def isReserved (c : Char) : Bool := c = mark || (standsFor? c).isSome

/-! ### Spelling -/

namespace CodePoint

/-- The number of a code point. -/
def value : CodePoint → Nat
  | char c => c.toNat
  | surrogate place => 0xD800 + place

/-- The code point of a number. -/
def ofValue (n : Nat) : CodePoint :=
  if h : 0xD800 ≤ n ∧ n < 0xE000 then .surrogate ⟨n - 0xD800, by omega⟩ else .char (Char.ofNat n)

/-- The characters that a code point is kept as. -/
def spelling : CodePoint → List Char
  | char c => if isReserved c then [mark, c] else [c]
  | surrogate place => [standIn place]

end CodePoint

/-- The code point that a character is kept for where no mark is in front of it. -/
def unmarked (c : Char) : CodePoint :=
  match standsFor? c with
  | some place => .surrogate place
  | none => .char c

/-- The code points that are kept as some characters. -/
def codePoints : List Char → List CodePoint
  | [] => []
  | [c] => [unmarked c]
  | c :: d :: cs =>
    if c = mark then .char d :: codePoints cs else unmarked c :: codePoints (d :: cs)

/-- The characters that some code points are kept as. -/
def spelled (ps : List CodePoint) : List Char := ps.flatMap CodePoint.spelling

/-- The text of code points. -/
def ofCodePoints (ps : List CodePoint) : String := String.ofList (spelled ps)

/-- The characters that a text of characters is kept as. -/
def spelledCharacters (cs : List Char) : List Char := spelled (cs.map .char)

/-- The text of characters. -/
def ofCharacters (cs : List Char) : String := String.ofList (spelledCharacters cs)

/-- A code point as a character: the place of a surrogate is taken by the character for what cannot
be shown. -/
def CodePoint.character : CodePoint → Char
  | char c => c
  | surrogate _ => '\ufffd'

/-- The characters of a text. -/
def characters (s : String) : List Char := (codePoints s.toList).map CodePoint.character

/-! ### Nothing is lost -/

/-- The number of a stand-in. -/
theorem toNat_standIn (place : Fin 0x800) : (standIn place).toNat = 0x10D800 + place := by
  have hv : (0x10D800 + place.val).isValidChar := Or.inr ⟨by omega, by omega⟩
  rw [standIn, Char.ofNat, dif_pos hv]
  rfl

/-- A stand-in can be told. -/
theorem standsFor?_standIn (place : Fin 0x800) : standsFor? (standIn place) = some place := by
  have h := toNat_standIn place
  have h1 : 0x10D800 ≤ (standIn place).toNat ∧ (standIn place).toNat < 0x10E000 := by omega
  rw [standsFor?, dif_pos h1]
  simp [h]

/-- No stand-in is the mark. -/
theorem standIn_ne_mark (place : Fin 0x800) : standIn place ≠ mark := by
  intro h
  have h1 := toNat_standIn place
  have h2 : mark.toNat = 0x10E000 := rfl
  rw [h] at h1
  omega

/-- A character that is not reserved spells itself. -/
theorem spelling_of_not_reserved {c : Char} (h : isReserved c = false) :
    (CodePoint.char c).spelling = [c] := by simp [CodePoint.spelling, h]

/-- A character that is not the mark is kept for one code point. -/
theorem codePoints_cons {c : Char} (h : c ≠ mark) (cs : List Char) :
    codePoints (c :: cs) = unmarked c :: codePoints cs := by
  cases cs with
  | nil => rfl
  | cons d ds => rw [codePoints, if_neg h]

/-- The first code point is read off its spelling, and the others off the rest. -/
theorem codePoints_spelling_append (p : CodePoint) (cs : List Char) :
    codePoints (p.spelling ++ cs) = p :: codePoints cs := by
  match p with
  | .surrogate place =>
    rw [CodePoint.spelling, List.singleton_append, codePoints_cons (standIn_ne_mark place)]
    simp [unmarked, standsFor?_standIn]
  | .char c =>
    by_cases h : isReserved c = true
    · rw [CodePoint.spelling, if_pos h]
      simp [codePoints]
    · rw [CodePoint.spelling, if_neg h, List.singleton_append]
      simp only [isReserved, Bool.or_eq_true, decide_eq_true_eq, not_or, Bool.not_eq_true,
        Option.isSome_eq_false_iff, Option.isNone_iff_eq_none] at h
      rw [codePoints_cons h.1, unmarked, h.2]

/-- Code points are read off their spelling. -/
theorem codePoints_spelled (ps : List CodePoint) : codePoints (spelled ps) = ps := by
  induction ps with
  | nil => rfl
  | cons p ps ih => rw [spelled, List.flatMap_cons, codePoints_spelling_append, ← spelled, ih]

/-- Code points are read off their text. -/
theorem codePoints_ofCodePoints (ps : List CodePoint) :
    codePoints (ofCodePoints ps).toList = ps := by
  rw [ofCodePoints, String.toList_ofList, codePoints_spelled]

end Text
end KeyCall
